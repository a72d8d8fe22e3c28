import QueryGate.Proofs.Filter.Combining
import QueryGate.Proofs.Filter.Places
/-!
Refused clauses inside of others. A clause that is refused on its own is refused for the same flaw wherever it
stands behind clauses that are accepted, and the place of the flaw is found by going on from where the clause
stands.
-/

namespace QueryGate.Filter

variable {entries : Entries} {trail outer : Trail}

/-! ## Labels -/

/-- The labels of trails that start with a key and whose keys all have a name. -/
inductive Labelled : Trail → String → Prop
  | root {name : String} (named : name ≠ "") : Labelled [.key (.text name)] name
  | key {above : Trail} {label name : String} (labelled : Labelled above label) (named : name ≠ "") :
      Labelled (.key (.text name) :: above) (label ++ "." ++ name)
  | index {above : Trail} {label : String} (labelled : Labelled above label) (position : Nat) :
      Labelled (.index position :: above) (label ++ "[" ++ toString position ++ "]")

namespace Labelled

variable {label around : String}

theorem ne_empty (labelled : Labelled trail label) : label ≠ "" := by
  cases labelled with
  | root named => exact named
  | key labelled named => simp [named]
  | index labelled position => simp

private theorem joinKey?_text {above name : String} (given : above ≠ "") :
    joinKey? (.text above) (.text name) = some (.text (above ++ "." ++ name)) := by
  have shown : (Atom.text above).isVacant = false := by simpa [Atom.isVacant] using given
  rw [joinKey?, shown, if_neg Bool.false_ne_true]
  rfl

private theorem label?_eq (labelled : Labelled trail label) : trail.label? = some (.text label) := by
  induction labelled with
  | root named => rfl
  | key labelled named ih =>
    rw [Trail.label?, ih]
    exact joinKey?_text labelled.ne_empty
  | index labelled position ih =>
    rw [Trail.label?, ih]
    rfl

theorem shown?_eq (labelled : Labelled trail label) : trail.shown? = some (.text label) := by
  have given : label.isEmpty = false := by simpa using labelled.ne_empty
  rw [Trail.shown?, labelled.label?_eq, Option.map_some, shownLabel, Atom.isVacant, given,
    if_neg Bool.false_ne_true]

/-- A trail that goes on inside has the label of the outer one in front. -/
theorem append (inner : Labelled trail label) (outside : Labelled outer around) :
    Labelled (trail ++ outer) (around ++ "." ++ label) := by
  induction inner with
  | root named => exact .key outside named
  | key labelled named ih =>
    have longer := Labelled.key ih named
    simpa only [List.cons_append, String.append_assoc] using longer
  | index labelled position ih =>
    have longer := Labelled.index ih position
    simpa only [List.cons_append, String.append_assoc] using longer

/-- Only a single key can look like the root. -/
theorem ne_rootLabel (labelled : Labelled trail label)
    (unlike : .key (.text rootLabel) ∉ trail) : label ≠ rootLabel := by
  rintro rfl
  have plain : rootLabel.toList = ['<', 'r', 'o', 'o', 't', '>'] := by rfl
  generalize same : rootLabel = shown at labelled
  cases labelled with
  | root named =>
    rw [same] at unlike
    exact unlike (List.mem_cons_self ..)
  | key labelled named =>
    have dot : '.' ∈ rootLabel.toList := by rw [same]; simp
    rw [plain] at dot
    exact absurd dot (by decide)
  | index labelled position =>
    have bracket : '[' ∈ rootLabel.toList := by rw [same]; simp
    rw [plain] at bracket
    exact absurd bracket (by decide)

private theorem exists_of_keys {key : Step} (first : ∃ name, key = .key (.text name))
    (named : ∀ other, .key other ∈ trail ++ [key] → ∃ name, other = .text name ∧ name ≠ "") :
    ∃ label, Labelled (trail ++ [key]) label := by
  induction trail with
  | nil =>
    obtain ⟨name, rfl⟩ := first
    obtain ⟨_, same, some⟩ := named _ (List.mem_cons_self ..)
    obtain rfl := Atom.text.inj same
    exact ⟨name, .root some⟩
  | cons step trail ih =>
    obtain ⟨label, labelled⟩ := ih fun other passed => named other (List.mem_cons_of_mem _ passed)
    cases step with
    | index position => exact ⟨_, .index labelled position⟩
    | key name =>
      obtain ⟨name, rfl, some⟩ := named _ (List.mem_cons_self ..)
      exact ⟨_, .key labelled some⟩

end Labelled

/-! ## Places -/

def RefusedAt (filter : Value) (detail place : String) : Prop :=
  ∃ problem trail, validate filter = .error (.flaw problem trail) ∧ problem.detail? = some detail ∧
    trail.shown? = some (.text place)

def placeBelow (around place : String) : String :=
  if place = rootLabel then around else around ++ "." ++ place

/-- The trail of a flaw in a clause and the place that it is shown as. -/
inductive ShownAs : Trail → String → Prop
  | root : ShownAs [] rootLabel
  | below {trail : Trail} {label : String} (labelled : Labelled trail label) (unlike : label ≠ rootLabel) :
      ShownAs trail label

theorem ShownAs.shown?_eq {place : String} (shown : ShownAs trail place) :
    trail.shown? = some (.text place) := by
  cases shown with
  | root => rfl
  | below labelled unlike => exact labelled.shown?_eq

theorem ShownAs.append {place around : String} (shown : ShownAs trail place)
    (outside : Labelled outer around) (unlike : placeBelow around place ≠ rootLabel) :
    ShownAs (trail ++ outer) (placeBelow around place) := by
  refine .below ?_ unlike
  cases shown with
  | root =>
    rw [placeBelow, if_pos rfl]
    exact outside
  | below labelled unlike =>
    rw [placeBelow, if_neg unlike]
    exact labelled.append outside

/-- A flaw in a map of conditions is shown at the root, or under the label of a way down. -/
theorem exists_shownAs {problem : Flaw}
    (named : ∀ key ∈ (Value.map entries).everyKey,
      ∃ name, key = .text name ∧ name ≠ "" ∧ name ≠ rootLabel)
    (refused : validate (.map entries) = .error (.flaw problem trail)) :
    ∃ place, ShownAs trail place := by
  have located := (flawsInside (.map entries)).clause []
  rw [← validate, refused] at located
  obtain ⟨-, inner, inside, same⟩ := located problem trail rfl
  rw [List.append_nil] at same
  subst same
  have keys : ∀ key, .key key ∈ trail → ∃ name, key = .text name ∧ name ≠ "" ∧ name ≠ rootLabel :=
    fun key passed => named key (inside.mem_everyKey passed)
  generalize whole : Value.map entries = clause at inside
  cases inside with
  | here => exact ⟨rootLabel, .root⟩
  | item => cases whole
  | @entry _ key _ above member inside =>
    have first : ∃ name, Step.key key = .key (.text name) := by
      obtain ⟨name, rfl, -⟩ := keys key (List.mem_append_right _ (List.mem_cons_self ..))
      exact ⟨name, rfl⟩
    obtain ⟨label, labelled⟩ := Labelled.exists_of_keys first fun other passed =>
      (keys other passed).imp fun _ fine => ⟨fine.1, fine.2.1⟩
    refine ⟨label, .below labelled (labelled.ne_rootLabel fun passed => ?_)⟩
    obtain ⟨name, same, -, unlike⟩ := keys _ passed
    exact unlike (Atom.text.inj same).symm

/-! ## Surroundings -/

/-- What a clause can stand in: the list of a combinator, or the condition that some item of a field must
meet. -/
inductive Surrounding where
  | joined (key : String) (before after : List Value)
  | matched (field : String)

namespace Surrounding

def around : Surrounding → Value → Value
  | joined key before after, clause => combined (.text key) (before ++ clause :: after)
  | matched field, clause => .map [(.text field, .map [(.text "$elemMatch", clause)])]

def way : Surrounding → Trail
  | joined key before _ => [.index before.length, .key (.text key)]
  | matched field => [.key (.text "$elemMatch"), .key (.text field)]

def place : Surrounding → String
  | joined key before _ => key ++ "[" ++ toString before.length ++ "]"
  | matched field => field ++ ".$elemMatch"

/-- Surroundings that the grammar knows, with nothing to refuse in front of the clause. -/
def Sound : Surrounding → Prop
  | joined key before _ =>
    CombinatorKey (.text key) ∧ ∀ earlier ∈ before, validate earlier = .ok ()
  | matched field => FieldName (.text field)

variable {surrounding : Surrounding}

private theorem isMap_around (surrounding : Surrounding) (clause : Value) :
    isMap (surrounding.around clause) = true := by
  cases surrounding <;> rfl

private theorem labelled_way (sound : surrounding.Sound) : Labelled surrounding.way surrounding.place := by
  cases surrounding with
  | joined key before after =>
    have named : key ≠ "" := by
      rintro rfl
      exact absurd sound.1.isOperatorKey (by decide)
    exact .index (.root named) before.length
  | matched field =>
    have named : field ≠ "" := by
      rintro rfl
      obtain ⟨_, first, rest, chars, -⟩ := sound
      cases chars
    have labelled : Labelled _ (field ++ "." ++ "$elemMatch") := .key (.root named) (by decide)
    rw [String.append_assoc] at labelled
    exact labelled

/-- No place inside of surroundings looks like the root. -/
theorem placeBelow_ne_rootLabel (surrounding : Surrounding) (place : String) :
    placeBelow surrounding.place place ≠ rootLabel := by
  have foreign : ∃ c ∈ surrounding.place.toList, c ∉ rootLabel.toList := by
    cases surrounding with
    | joined key before after => exact ⟨'[', by simp [Surrounding.place], by decide⟩
    | matched field => exact ⟨'$', by simp [Surrounding.place], by decide⟩
  obtain ⟨c, here, nowhere⟩ := foreign
  intro same
  apply nowhere
  rw [← same, placeBelow]
  split
  next => exact here
  next => simp [here]

/-- Clauses that are accepted leave it to those behind them. -/
theorem checkClauses_behind {before rest : List Value}
    (accepted : ∀ earlier ∈ before, validate earlier = .ok ()) (trail : Trail) (index : Nat) :
    checkClauses trail index (before ++ rest) = checkClauses trail (index + before.length) rest := by
  induction before generalizing index with
  | nil => rfl
  | cons earlier before ih =>
    obtain ⟨here, others⟩ := List.forall_mem_cons.mp accepted
    rw [List.cons_append, checkClauses, checkClause_eq_ok_iff.mpr here, List.length_cons,
      Nat.add_comm before.length, ← Nat.add_assoc]
    exact ih others (index + 1)

private theorem validate_joined {key : String} (joins : CombinatorKey (.text key)) {before : List Value}
    (accepted : ∀ earlier ∈ before, validate earlier = .ok ()) (after : List Value) {clause : Value}
    {rejection : Rejection}
    (refused : checkClause [.index before.length, .key (.text key)] clause = .error rejection) :
    validate (combined (.text key) (before ++ clause :: after)) = .error rejection := by
  rw [validate_combined_eq joins, checkClauses_behind accepted, Nat.zero_add, checkClauses, refused]
  rfl

private theorem validate_matched {field : String} (name : FieldName (.text field)) {rejection : Rejection}
    (refused : checkClause [.key (.text "$elemMatch"), .key (.text field)] (.map entries) =
      .error rejection) :
    validate (.map [(.text field, .map [(.text "$elemMatch", .map entries)])]) = .error rejection := by
  have plain : isOperatorKey field = false := name.not_isOperatorKey
  have named : isFieldName field = true := isFieldName_iff.mpr name
  have compared : checkComparison [.key (.text field)] (.map [(.text "$elemMatch", .map entries)]) =
      (checkClause [.key (.text "$elemMatch"), .key (.text field)] (.map entries) >>= fun _ => .ok ()) := by
    rfl
  have fields : checkFields [] [] [(.text field, .map [(.text "$elemMatch", .map entries)])] =
      .error rejection := by
    simp [checkFields, Atom.chars, named, compared, refused, bind, Except.bind]
  rw [validate, checkClause]
  simp [textKeys, plain, fields, bind, Except.bind, Except.map]

/-- A flaw of a clause is the flaw of its surroundings. -/
theorem validate_around (sound : surrounding.Sound) {clause : Value} (map : isMap clause = true)
    {problem : Flaw} {trail : Trail} (refused : validate clause = .error (.flaw problem trail)) :
    validate (surrounding.around clause) = .error (.flaw problem (trail ++ surrounding.way)) := by
  have moved : checkClause surrounding.way clause = .error (.flaw problem (trail ++ surrounding.way)) := by
    have same := (relocates clause).clause [] surrounding.way
    rw [List.nil_append, ← validate, refused] at same
    exact same
  cases surrounding with
  | joined key before after => exact validate_joined sound.1 sound.2 after moved
  | matched field =>
    cases clause with
    | atom | list => cases map
    | map entries => exact validate_matched sound moved

end Surrounding

def nested (surroundings : List Surrounding) (clause : Value) : Value :=
  surroundings.foldr Surrounding.around clause

def nestedPlace (surroundings : List Surrounding) (place : String) : String :=
  surroundings.foldr (fun surrounding inner => placeBelow surrounding.place inner) place

private theorem refused_nested {clause : Value} (map : isMap clause = true) {problem : Flaw} {trail : Trail}
    {place : String} (refused : validate clause = .error (.flaw problem trail))
    (shown : ShownAs trail place) {surroundings : List Surrounding}
    (sound : ∀ surrounding ∈ surroundings, surrounding.Sound) :
    isMap (nested surroundings clause) = true ∧ ∃ longer,
      validate (nested surroundings clause) = .error (.flaw problem longer) ∧
        ShownAs longer (nestedPlace surroundings place) := by
  induction surroundings with
  | nil => exact ⟨map, trail, refused, shown⟩
  | cons surrounding surroundings ih =>
    obtain ⟨here, others⟩ := List.forall_mem_cons.mp sound
    obtain ⟨mapped, longer, refused, shown⟩ := ih others
    exact ⟨surrounding.isMap_around _, longer ++ surrounding.way,
      Surrounding.validate_around here mapped refused,
      shown.append (Surrounding.labelled_way here) (surrounding.placeBelow_ne_rootLabel _)⟩

/-- A clause whose keys all have a name that does not look like the root, and that is refused on its own, is
refused with the same detail wherever else it stands, behind accepted clauses of a combinator or under
`$elemMatch`, at its own place below the one where it stands; and so through any number of surroundings. -/
theorem refusal_located (entries : Entries)
    (named : ∀ key ∈ (Value.map entries).everyKey,
      ∃ name, key = .text name ∧ name ≠ "" ∧ name ≠ rootLabel)
    (detail place : String) (refused : RefusedAt (.map entries) detail place) :
    (∀ key before after, CombinatorKey (.text key) → (∀ earlier ∈ before, validate earlier = .ok ()) →
      RefusedAt (combined (.text key) (before ++ .map entries :: after)) detail
        (placeBelow (key ++ "[" ++ toString before.length ++ "]") place)) ∧
    (∀ field, FieldName (.text field) →
      RefusedAt (.map [(.text field, .map [(.text "$elemMatch", .map entries)])]) detail
        (placeBelow (field ++ ".$elemMatch") place)) ∧
    ∀ surroundings : List Surrounding, (∀ surrounding ∈ surroundings, surrounding.Sound) →
      RefusedAt (nested surroundings (.map entries)) detail (nestedPlace surroundings place) := by
  obtain ⟨problem, trail, refused, same, shownPlace⟩ := refused
  obtain ⟨label, shown⟩ := exists_shownAs named refused
  obtain rfl : label = place := Atom.text.inj (Option.some.inj (shown.shown?_eq.symm.trans shownPlace))
  have deeper : ∀ surroundings : List Surrounding, (∀ surrounding ∈ surroundings, surrounding.Sound) →
      RefusedAt (nested surroundings (.map entries)) detail (nestedPlace surroundings label) := by
    intro surroundings sound
    obtain ⟨-, longer, refused, shown⟩ := refused_nested rfl refused shown sound
    exact ⟨problem, longer, refused, same, shown.shown?_eq⟩
  refine ⟨?_, ?_, deeper⟩
  · intro key before after joins accepted
    exact deeper [.joined key before after] (List.forall_mem_singleton.mpr ⟨joins, accepted⟩)
  · intro field name
    exact deeper [.matched field] (List.forall_mem_singleton.mpr name)

/-- An item that is no leaf, four clauses deep. -/
theorem refusal_located_deep :
    let clause : Entries := [(.text "tags", .map [(.text "$in", .list [.text "a", .list []])])]
    let filter : Value := .map [(.text "$or", .list [.map [(.text "name", .text "b")],
      .map [(.text "items", .map [(.text "$elemMatch", .map [(.text "$and", .list [.map clause])])])]])]
    (∀ key ∈ (Value.map clause).everyKey, ∃ name, key = .text name ∧ name ≠ "" ∧ name ≠ rootLabel) ∧
      RefusedAt (.map clause) "Array items must be strings, numbers, booleans or null, got array"
        "tags.$in[1]" ∧
      RefusedAt filter "Array items must be strings, numbers, booleans or null, got array"
        "$or[1].items.$elemMatch.$and[0].tags.$in[1]" := by
  intro clause filter
  have named : ∀ key ∈ (Value.map clause).everyKey,
      ∃ name, key = .text name ∧ name ≠ "" ∧ name ≠ rootLabel := by
    simp [clause, Value.mem_everyKey_map, Value.mem_everyKey_list, rootLabel]
  have refused : RefusedAt (.map clause) "Array items must be strings, numbers, booleans or null, got array"
      "tags.$in[1]" :=
    ⟨.arrayItem "array", [.index 1, .key (.text "$in"), .key (.text "tags")], rfl, rfl, rfl⟩
  let surroundings : List Surrounding :=
    [.joined "$or" [.map [(.text "name", .text "b")]] [], .matched "items", .joined "$and" [] []]
  have sound : ∀ surrounding ∈ surroundings, surrounding.Sound := by
    refine List.forall_mem_cons.mpr ⟨⟨.either, ?_⟩, List.forall_mem_cons.mpr ⟨?_, ?_⟩⟩
    · exact List.forall_mem_singleton.mpr rfl
    · exact isFieldName_iff.mp rfl
    · exact List.forall_mem_singleton.mpr ⟨.both, nofun⟩
  exact ⟨named, refused, (refusal_located clause named _ _ refused).2.2 surroundings sound⟩

end QueryGate.Filter
