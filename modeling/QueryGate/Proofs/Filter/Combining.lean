import QueryGate.Proofs.Filter.ClauseGrammar
import QueryGate.Proofs.Filter.Rebuilding
import QueryGate.Proofs.Filter.Relocation
/-!
Filters joined by a combinator. A combinator over filters is parsed exactly if each of them is parsed on its
own with a depth limit that is smaller by the two containers around it, and it is stored over what they are
stored as.
-/

namespace QueryGate.Filter

open QueryGate.Outcome

variable {registry : Registry} {key : Atom}

def combined (key : Atom) (filters : List Value) : Value := .map [(key, .list filters)]

/-! ## The walk -/

/-- What a filter inside a combinator is rebuilt to is what it is rebuilt to on its own. -/
theorem canonicalNode_below_ok {limit : Nat} {trail : Trail} {filter result : Value} :
    canonicalNode registry (.int (limit + 2)) 2 trail none filter = .ok result ↔
      canonicalNode registry (.int limit) 0 [] none filter = .ok result := by
  have lifted := canonicalNode_deeper registry limit 0 2 [] trail none filter
  rw [List.nil_append, Nat.zero_add] at lifted
  rw [show (limit : Int) + 2 = limit + (2 : Nat) from rfl, lifted, mapError_eq_ok]

private theorem canonicalItems_below_ok {limit : Nat} {trail : Trail} {index : Nat} {filters results : List Value} :
    canonicalItems registry (.int (limit + 2)) 2 trail none index filters = .ok results ↔
      List.Forall₂ (fun filter result => canonicalNode registry (.int limit) 0 [] none filter = .ok result)
        filters results := by
  induction filters generalizing index results with
  | nil =>
    rw [canonicalItems, List.forall₂_nil_left_iff]
    exact ⟨fun same => (Except.ok.inj same).symm, fun same => same ▸ rfl⟩
  | cons filter filters ih =>
    rw [canonicalItems, List.forall₂_cons_left_iff, bind_eq_ok]
    simp only [canonicalNode_below_ok, bind_eq_ok, ih]
    constructor
    · rintro ⟨first, here, others, later, same⟩
      exact ⟨first, others, here, later, (Except.ok.inj same).symm⟩
    · rintro ⟨first, others, here, later, rfl⟩
      exact ⟨first, here, others, later, rfl⟩

private theorem canonicalNode_combined (joins : CombinatorKey key) (limit : Nat) (filters : List Value) :
    canonicalNode registry (.int (limit + 2)) 0 [] none (combined key filters) =
      (canonicalItems registry (.int (limit + 2)) 2 [.key key] none 0 filters).map (combined key) := by
  have outside : checkDepth (.int (limit + 2)) 0 [] = .ok () := by
    rw [checkDepth_int, if_neg (by omega)]
  have inside : checkDepth (.int (limit + 2)) 1 [.key key] = .ok () := by
    rw [checkDepth_int, if_neg (by omega)]
  have kept : canonicalKey registry [] none [] key = .ok (key, none) := by
    cases joins <;> rfl
  simp only [combined, canonicalNode, canonicalEntries, outside, kept, inside, bind, Except.bind]
  cases canonicalItems registry (.int (limit + 2)) 2 [.key key] none 0 filters <;> rfl

/-! ## The grammar -/

theorem checkClause_eq_ok_iff {trail : Trail} {filter : Value} :
    checkClause trail filter = .ok () ↔ validate filter = .ok () := by
  have moved := (relocates filter).clause [] trail
  rw [List.nil_append] at moved
  rw [moved, mapError_eq_ok, validate]

private theorem checkClauses_eq_ok_iff {trail : Trail} {index : Nat} {filters : List Value} :
    checkClauses trail index filters = .ok () ↔ ∀ filter ∈ filters, validate filter = .ok () := by
  induction filters generalizing index with
  | nil => exact ⟨fun _ => nofun, fun _ => rfl⟩
  | cons filter filters ih =>
    rw [checkClauses, bind_eq_ok, List.forall_mem_cons, ← checkClause_eq_ok_iff, ← ih]
    constructor
    · rintro ⟨_, here, later⟩
      exact ⟨here, later⟩
    · rintro ⟨here, later⟩
      exact ⟨(), here, later⟩

theorem validate_combined_eq (joins : CombinatorKey key) (filters : List Value) :
    validate (combined key filters) = (checkClauses [.key key] 0 filters >>= fun _ => .ok ()) := by
  cases joins <;> rfl

theorem validate_combined (joins : CombinatorKey key) (filters : List Value) :
    validate (combined key filters) = .ok () ↔ ∀ filter ∈ filters, validate filter = .ok () := by
  rw [validate_combined_eq joins, bind_eq_ok, ← checkClauses_eq_ok_iff]
  constructor
  · rintro ⟨_, each, -⟩
    exact each
  · exact fun each => ⟨(), each, rfl⟩

/-! ## Whole filters -/

/-- A combinator over filters is parsed exactly if each of the filters is, with a depth limit that is smaller
by two, and then it is stored over what they are stored as, in their order. -/
theorem parse_combined (registry : Registry) (key : Atom) (joins : CombinatorKey key) (limit : Nat)
    (filters : List Entries) :
    let joined := combined key (filters.map .map)
    ((∃ canonical, parse registry (.int (limit + 2)) joined = .ok canonical) ↔
      ∀ entries ∈ filters, ∃ canonical, parse registry (.int limit) (.map entries) = .ok canonical) ∧
    ∀ canonical, parse registry (.int (limit + 2)) joined = .ok canonical ↔
      ∃ results, canonical = combined key results ∧ List.Forall₂
        (fun entries result => parse registry (.int limit) (.map entries) = .ok result)
        filters results := by
  intro joined
  have stored (canonical : Value) : parse registry (.int (limit + 2)) joined = .ok canonical ↔
      ∃ results, canonical = combined key results ∧ List.Forall₂
        (fun entries result => parse registry (.int limit) (.map entries) = .ok result)
        filters results := by
    change parse registry _ (.map [(key, .list (filters.map .map))]) = _ ↔ _
    rw [parse_map_eq_ok_iff]
    change canonicalNode registry _ 0 [] none (combined key (filters.map .map)) = _ ∧ _ ↔ _
    rw [canonicalNode_combined joins, map_eq_ok]
    simp only [canonicalItems_below_ok, List.forall₂_map_left_iff, parse_map_eq_ok_iff, forall₂_and_right]
    constructor
    · rintro ⟨⟨results, rebuilt, rfl⟩, valid⟩
      exact ⟨results, rfl, rebuilt, (validate_combined joins results).mp valid⟩
    · rintro ⟨results, rfl, rebuilt, valid⟩
      exact ⟨⟨results, rebuilt, rfl⟩, (validate_combined joins results).mpr valid⟩
  refine ⟨?_, stored⟩
  simp only [stored]
  rw [← exists_forall₂_iff]
  constructor
  · rintro ⟨_, results, -, pairs⟩
    exact ⟨results, pairs⟩
  · rintro ⟨results, pairs⟩
    exact ⟨_, results, rfl, pairs⟩

/-- Three filters that are parsed within two levels are parsed within four when none of them may hold. -/
theorem parse_combined_nor :
    let filters : List Entries := [[(.text "created", .map [(.text "$ne", .text "null")])], [],
      [(.text "typeName", .text "pdf")]]
    let results : List Value := [.map [(.text "created_at", .map [(.text "$ne", .null)])], .empty,
      .map [(.text "type_name", .text "pdf")]]
    CombinatorKey (.text "$nor") ∧
      parse Registry.ofFiles (.int 4) (combined (.text "$nor") (filters.map .map)) =
        .ok (combined (.text "$nor") results) := by
  intro filters results
  have first : parse Registry.ofFiles (.int 2)
      (.map [(.text "created", .map [(.text "$ne", .text "null")])]) =
      .ok (.map [(.text "created_at", .map [(.text "$ne", .null)])]) :=
    parse_map_of_valid (by rfl) (by rfl) (by rfl)
  have last : parse Registry.ofFiles (.int 2) (.map [(.text "typeName", .text "pdf")]) =
      .ok (.map [(.text "type_name", .text "pdf")]) :=
    parse_map_of_valid (by rfl) (by rfl) (by rfl)
  refine ⟨.neither, ((parse_combined Registry.ofFiles _ .neither 2 filters).2 _).mpr ⟨results, rfl, ?_⟩⟩
  exact .cons first (.cons (by rfl) (.cons last .nil))

end QueryGate.Filter
