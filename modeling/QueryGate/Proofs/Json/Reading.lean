import Mathlib.Data.List.Infix
import QueryGate.Json.Reader
import QueryGate.Proofs.Outcome
import QueryGate.Proofs.Value.Tree
/-!
What JSON texts are read as. Every reader goes on in the text that it was given, so a number that is read is
spelled out somewhere in the text, and so is a number that is refused for its digits. Objects become maps
whose keys are texts, none of them twice.
-/

namespace QueryGate.Json

open QueryGate.Outcome

/-- A number is spelled out somewhere in a text. -/
def Spells (chars : List Char) (numeral : Numeral) : Prop :=
  ∃ rest, rest <:+ chars ∧ readNumeral? rest = some numeral

theorem spells_iff {chars : List Char} {numeral : Numeral} :
    Spells chars numeral ↔ numeral ∈ chars.tails.filterMap readNumeral? := by
  simp only [Spells, List.mem_filterMap, List.mem_tails]

/-- Values as texts can spell them: their numbers are in the text, and their maps come from objects. -/
inductive WrittenIn (chars : List Char) : Value → Prop
  | null : WrittenIn chars .null
  | bool (flag : Bool) : WrittenIn chars (.bool flag)
  | text (content : String) : WrittenIn chars (.text content)
  | number {numeral : Numeral} {value : Value} (spelled : Spells chars numeral)
      (read : numeral.value = .ok value) : WrittenIn chars value
  | list {items : List Value} (each : ∀ item ∈ items, WrittenIn chars item) : WrittenIn chars (.list items)
  | map {entries : Entries} (texts : ∀ entry ∈ entries, ∃ name, entry.1 = .text name)
      (distinct : Entries.Distinct entries) (each : ∀ entry ∈ entries, WrittenIn chars entry.2) :
      WrittenIn chars (.map entries)

def Founded (chars : List Char) (problem : ReadError) : Prop :=
  ∀ count, problem = .tooManyDigits count →
    ∃ numeral, Spells chars numeral ∧ numeral.value = .error (.tooManyDigits count)

def Within (chars : List Char) (cursor : Cursor) : Prop := cursor.rest <:+ chars

variable {chars : List Char} {cursor : Cursor} {standIn : Nat → Char}

theorem Within.advance (within : Within chars cursor) (count : Nat) : Within chars (cursor.advance count) :=
  (List.drop_suffix count cursor.rest).trans within

theorem Within.skip (within : Within chars cursor) : Within chars cursor.skip := within.advance _

private theorem founded_malformed (fault : Fault) (place : Nat) : Founded chars (.malformed fault place) :=
  fun _ same => nomatch same

theorem meets_refuse {α : Type} {fine : α → Prop} (fault : Fault) (place : Nat) :
    Meets fine (Founded chars) (refuse fault place) := founded_malformed fault place

/-! ## Strings -/

private theorem meets_readUnicodeEscape (place : Nat) (rest : List Char) :
    Meets (fun _ => True) (Founded chars) (readUnicodeEscape standIn place rest) := by
  unfold readUnicodeEscape
  split
  next =>
    split
    next => exact meets_refuse _ _
    next => exact meets_refuse _ _
    next =>
      split
      next =>
        split
        next => exact meets_refuse _ _
        next => split <;> trivial
      next => trivial
    next => trivial
  next => exact meets_refuse _ _

private theorem meets_readEscape (opening place : Nat) (rest : List Char) :
    Meets (fun _ => True) (Founded chars) (readEscape standIn opening place rest) := by
  unfold readEscape
  split
  next => exact meets_refuse _ _
  next => exact meets_readUnicodeEscape _ _
  next =>
    split
    next => trivial
    next => exact meets_refuse _ _

theorem meets_readString (opening place : Nat) (rest known : List Char) (within : rest <:+ chars) :
    Meets (fun read => Within chars read.2) (Founded chars) (readString standIn opening place rest known) := by
  fun_induction readString standIn opening place rest known with
  | case1 => exact meets_refuse _ _
  | case2 place known rest => exact (List.suffix_cons _ _).trans within
  | case3 place known rest problem failed =>
    have met : Meets _ (Founded chars) (readEscape standIn opening place rest) :=
      meets_readEscape opening place rest
    rw [failed] at met
    exact met
  | case4 place known rest c count read ih =>
    exact ih ((List.drop_suffix _ _).trans ((List.suffix_cons _ _).trans within))
  | case5 => exact meets_refuse _ _
  | case6 place known c rest _ _ _ ih => exact ih ((List.suffix_cons _ _).trans within)

/-! ## Values -/

def ReadIn (chars : List Char) (read : Value × Cursor) : Prop :=
  WrittenIn chars read.1 ∧ Within chars read.2

def Faithful (chars : List Char) (reader : Reader) : Prop :=
  ∀ cursor, Within chars cursor → Meets (ReadIn chars) (Founded chars) (reader cursor)

private theorem meets_readName (within : Within chars cursor) :
    Meets (fun read => Within chars read.2) (Founded chars) (readName standIn cursor) := by
  unfold readName
  split
  next rest start =>
    have inside : rest <:+ chars := (start ▸ List.suffix_cons '"' rest).trans within
    refine (meets_readString _ _ _ _ inside).bind ?_
    intro (name, behind) later
    dsimp only
    split
    next => exact (later.skip.advance 1).skip
    next => exact meets_refuse _ _
  next => exact meets_refuse _ _

private theorem writtenIn_word {content : List Char} {name : String} {value : Value}
    (found : word? content = some (name, .value value)) : WrittenIn chars value := by
  have member := List.mem_of_find?_eq_some found
  simp only [words, List.mem_cons, Prod.mk.injEq, Word.value.injEq, reduceCtorEq, and_false, or_false,
    List.not_mem_nil] at member
  rcases member with ⟨-, rfl⟩ | ⟨-, rfl⟩ | ⟨-, rfl⟩
  · exact .null
  · exact .bool true
  · exact .bool false

private theorem founded_value {numeral : Numeral} (spelled : Spells chars numeral) {problem : ReadError}
    (refused : numeral.value = .error problem) : Founded chars problem :=
  fun _ same => ⟨numeral, spelled, same ▸ refused⟩

private theorem faithful_readScalar : Faithful chars (readScalar standIn) := by
  intro cursor within
  unfold readScalar
  split
  next rest start =>
    have inside : rest <:+ chars := (start ▸ List.suffix_cons '"' rest).trans within
    refine (meets_readString _ _ _ _ inside).bind ?_
    intro (content, behind) later
    exact ⟨.text content, later⟩
  next =>
    split
    next name value found => exact ⟨writtenIn_word found, within.advance _⟩
    next => exact fun _ same => nomatch same
    next =>
      split
      next numeral found =>
        have spelled : Spells chars numeral := ⟨cursor.rest, within, found⟩
        cases read : numeral.value with
        | error problem => exact founded_value spelled read
        | ok value => exact ⟨.number spelled read, within.advance _⟩
      next => exact meets_refuse _ _

private theorem faithful_readItems {readItem : Reader} (faithful : Faithful chars readItem) (fuel : Nat)
    (known : List Value) (written : ∀ item ∈ known, WrittenIn chars item) :
    Faithful chars fun cursor => readItems readItem fuel cursor known := by
  induction fuel generalizing known with
  | zero => exact fun _ _ => meets_refuse _ _
  | succ fuel ih =>
    intro cursor within
    dsimp only
    rw [readItems]
    refine (faithful cursor within).bind ?_
    rintro ⟨item, behind⟩ ⟨here, later⟩
    have each : ∀ other ∈ item :: known, WrittenIn chars other := List.forall_mem_cons.mpr ⟨here, written⟩
    dsimp only
    split
    next => exact ⟨.list fun other member => each other (List.mem_reverse.mp member), later.skip.advance 1⟩
    next => exact ih _ each _ (later.skip.advance 1).skip
    next => exact meets_refuse _ _

def MembersIn (chars : List Char) (known : Entries) : Prop :=
  ∀ entry ∈ known, (∃ name, entry.1 = .text name) ∧ WrittenIn chars entry.2

private theorem MembersIn.writtenIn {known : Entries} (members : MembersIn chars known) :
    WrittenIn chars (.map (Entries.ofSettings known)) := by
  refine .map ?_ (Entries.distinct_ofSettings known) ?_
  · intro entry member
    obtain ⟨setting, inside, same⟩ := List.mem_map.mp (Entries.key_mem_of_mem_ofSettings member)
    exact same ▸ (members setting inside).1
  · intro entry member
    obtain ⟨setting, inside, same⟩ := Entries.exists_value_of_mem_ofSettings member
    exact same ▸ (members setting inside).2

private theorem faithful_readMembers {readItem : Reader} (faithful : Faithful chars readItem) (fuel : Nat)
    (known : Entries) (members : MembersIn chars known) :
    Faithful chars fun cursor => readMembers standIn readItem fuel cursor known := by
  induction fuel generalizing known with
  | zero => exact fun _ _ => meets_refuse _ _
  | succ fuel ih =>
    intro cursor within
    dsimp only
    rw [readMembers]
    refine (meets_readName within).bind ?_
    intro (name, behind) between
    refine (faithful behind between).bind ?_
    rintro ⟨item, behind⟩ ⟨here, later⟩
    have each : MembersIn chars ((.text name, item) :: known) :=
      List.forall_mem_cons.mpr ⟨⟨⟨name, rfl⟩, here⟩, members⟩
    dsimp only
    split
    next =>
      have order : MembersIn chars ((.text name, item) :: known).reverse :=
        fun entry member => each entry (List.mem_reverse.mp member)
      exact ⟨order.writtenIn, later.skip.advance 1⟩
    next => exact ih _ each _ (later.skip.advance 1).skip
    next => exact meets_refuse _ _

theorem faithful_readWith (inner : Option Reader) (faithful : ∀ reader ∈ inner, Faithful chars reader) :
    Faithful chars (readWith standIn inner) := by
  intro cursor within
  have behind : Within chars (cursor.advance 1).skip := (within.advance 1).skip
  unfold readWith
  split
  next =>
    cases inner with
    | none => exact fun _ same => nomatch same
    | some readItem =>
      dsimp only
      split
      next => exact ⟨.list (List.forall_mem_nil _), behind.advance 1⟩
      next => exact faithful_readItems (faithful readItem rfl) _ [] (List.forall_mem_nil _) _ behind
  next =>
    cases inner with
    | none => exact fun _ same => nomatch same
    | some readItem =>
      dsimp only
      split
      next => exact ⟨.map (List.forall_mem_nil _) .nil (List.forall_mem_nil _), behind.advance 1⟩
      next => exact faithful_readMembers (faithful readItem rfl) _ [] (List.forall_mem_nil _) _ behind
  next => exact faithful_readScalar cursor within

private theorem faithful_readValue (allowance : Nat) : Faithful chars (readValue standIn allowance) := by
  induction allowance with
  | zero => exact faithful_readWith none nofun
  | succ allowance ih => exact faithful_readWith _ fun reader same => Option.some.inj same ▸ ih

private theorem meets_readChars (decoder : Decoder) (chars : List Char) :
    Meets (WrittenIn chars) (Founded chars) (decoder.readChars chars) := by
  have start : Within chars (Cursor.skip ⟨0, chars⟩) := Within.skip (List.suffix_refl chars)
  refine (faithful_readValue decoder.nestingLimit _ start).bind ?_
  rintro ⟨value, behind⟩ ⟨written, -⟩
  dsimp only
  split
  next => exact written
  next => exact meets_refuse _ _

theorem meets_read (decoder : Decoder) (text : String) :
    Meets (WrittenIn text.toList) (Founded text.toList) (decoder.read text) := by
  rw [Decoder.read]
  split
  next => exact meets_refuse _ _
  next => exact meets_readChars decoder text.toList

def Decoder.ofHundred : Decoder := ⟨100, fun _ => Char.ofNat 0xfffd⟩

end QueryGate.Json
