import QueryGate.Proofs.Value.Tree
import QueryGate.Value.Display
/-!
Which values can be put into words. A whole number of more digits than the limit cannot, and it takes every
value with it that it stands in, however deep it lies. All other values have a literal and a plain form.
-/

namespace QueryGate

/-- The number has more digits than can be written. -/
def Number.IsOverlong (number : Int) : Prop := overlongBound ≤ number.natAbs

theorem Number.write?_eq_none_iff {number : Int} : write? number = none ↔ IsOverlong number := by
  unfold write? IsOverlong
  split
  next short => simp [short]
  next long => simpa using long

/-- A billion has ten digits, far less than the limit. -/
theorem Number.billion_le_overlongBound : 1000000000 ≤ overlongBound := by
  have power (exponent : Nat) (many : 9 ≤ exponent) : Nat.pow 10 9 ≤ Nat.pow 10 exponent :=
    Nat.pow_le_pow_right (by decide) many
  unfold overlongBound
  exact power digitLimit (by decide)

theorem Number.not_isOverlong_of_lt {number : Int} (small : number.natAbs < 1000000000) : ¬IsOverlong number :=
  Nat.not_le_of_lt (Nat.lt_of_lt_of_le small billion_le_overlongBound)

@[irreducible]
def Number.leastOverlong : Int := overlongBound

theorem Number.isOverlong_leastOverlong : IsOverlong leastOverlong := by
  have same : leastOverlong.natAbs = overlongBound := by rw [leastOverlong, Int.natAbs_natCast]
  exact Nat.le_of_eq same.symm

theorem Number.leastOverlong_pos : 0 < leastOverlong := by
  have large := billion_le_overlongBound
  rw [leastOverlong]
  omega

theorem Number.isOverlong_neg_iff {number : Int} : IsOverlong (-number) ↔ IsOverlong number := by
  rw [IsOverlong, IsOverlong, Int.natAbs_neg]

def Atom.IsOverlong (leaf : Atom) : Prop := ∃ number, leaf = .int number ∧ Number.IsOverlong number

theorem Atom.isOverlong_int {number : Int} : (Atom.int number).IsOverlong ↔ Number.IsOverlong number :=
  ⟨fun ⟨_, same, long⟩ => Atom.int.inj same ▸ long, fun long => ⟨number, rfl, long⟩⟩

theorem Atom.not_isOverlong_text (chars : String) : ¬(Atom.text chars).IsOverlong := by
  rintro ⟨number, same, -⟩
  cases same

theorem Atom.literal?_eq_none_iff {leaf : Atom} : leaf.literal? = none ↔ leaf.IsOverlong := by
  cases leaf with
  | int number => rw [isOverlong_int, ← Number.write?_eq_none_iff]; rfl
  | _ => simp [literal?, IsOverlong]

theorem Atom.plain?_eq_none_iff {leaf : Atom} : leaf.plain? = none ↔ leaf.IsOverlong := by
  unfold plain?
  split
  next chars => simp [not_isOverlong_text]
  next moment => simp [IsOverlong]
  next => exact literal?_eq_none_iff

/-- A value in which, however deep, a number stands that cannot be written. -/
inductive Value.HoldsOverlong : Value → Prop
  | atom {leaf : Atom} (long : leaf.IsOverlong) : HoldsOverlong (.atom leaf)
  | item {items : List Value} {item : Value} (member : item ∈ items) (long : HoldsOverlong item) :
      HoldsOverlong (.list items)
  | key {entries : Entries} {entry : Atom × Value} (member : entry ∈ entries)
      (long : entry.1.IsOverlong) : HoldsOverlong (.map entries)
  | value {entries : Entries} {entry : Atom × Value} (member : entry ∈ entries)
      (long : HoldsOverlong entry.2) : HoldsOverlong (.map entries)

namespace Value

theorem holdsOverlong_atom {leaf : Atom} : (Value.atom leaf).HoldsOverlong ↔ leaf.IsOverlong :=
  ⟨fun | .atom long => long, .atom⟩

theorem holdsOverlong_int {number : Int} :
    (Value.int number).HoldsOverlong ↔ Number.IsOverlong number :=
  holdsOverlong_atom.trans Atom.isOverlong_int

theorem holdsOverlong_list {items : List Value} :
    (Value.list items).HoldsOverlong ↔ ∃ item ∈ items, item.HoldsOverlong :=
  ⟨fun | .item member long => ⟨_, member, long⟩, fun ⟨_, member, long⟩ => .item member long⟩

theorem holdsOverlong_map {entries : Entries} :
    (Value.map entries).HoldsOverlong ↔
      ∃ entry ∈ entries, entry.1.IsOverlong ∨ entry.2.HoldsOverlong := by
  constructor
  · rintro (_ | _ | ⟨member, long⟩ | ⟨member, long⟩)
    · exact ⟨_, member, .inl long⟩
    · exact ⟨_, member, .inr long⟩
  · rintro ⟨entry, member, long | long⟩
    · exact .key member long
    · exact .value member long

private theorem literalItems?_eq_none_iff {items : List Value} :
    literalItems? items = none ↔ ∃ item ∈ items, item.literal? = none := by
  induction items with
  | nil => simp [literalItems?]
  | cons item items ih =>
    simp only [literalItems?, List.mem_cons, exists_eq_or_imp, ← ih]
    cases item.literal? with
    | none => simp
    | some first => cases literalItems? items <;> simp

private theorem literalEntries?_eq_none_iff {entries : Entries} :
    literalEntries? entries = none ↔
      ∃ entry ∈ entries, entry.1.literal? = none ∨ entry.2.literal? = none := by
  induction entries with
  | nil => simp [literalEntries?]
  | cons entry entries ih =>
    obtain ⟨key, value⟩ := entry
    simp only [literalEntries?, List.mem_cons, exists_eq_or_imp, ← ih]
    cases key.literal? with
    | none => simp
    | some shown =>
      cases value.literal? with
      | none => simp
      | some first => cases literalEntries? entries <;> simp

theorem literal?_eq_none_iff {value : Value} : value.literal? = none ↔ value.HoldsOverlong := by
  -- The cases of `HoldsOverlong` are the ways in which the literal of a part can be missing.
  induction value using treeInduction with
  | atom leaf => rw [literal?, Atom.literal?_eq_none_iff, holdsOverlong_atom]
  | list items ih =>
    have parts : (Value.list items).literal? = none ↔ literalItems? items = none := by
      rw [literal?]
      cases literalItems? items <;> simp
    rw [parts, literalItems?_eq_none_iff, holdsOverlong_list]
    exact exists_congr fun item => and_congr_right (ih item)
  | map entries ih =>
    have parts : (Value.map entries).literal? = none ↔ literalEntries? entries = none := by
      rw [literal?]
      cases literalEntries? entries <;> simp
    rw [parts, literalEntries?_eq_none_iff, holdsOverlong_map]
    exact exists_congr fun entry => and_congr_right fun member =>
      or_congr Atom.literal?_eq_none_iff (ih entry member)

theorem plain?_eq_none_iff {value : Value} : value.plain? = none ↔ value.HoldsOverlong := by
  cases value with
  | atom leaf => rw [plain?, Atom.plain?_eq_none_iff, holdsOverlong_atom]
  | list items => exact literal?_eq_none_iff
  | map entries => exact literal?_eq_none_iff

end Value

end QueryGate
