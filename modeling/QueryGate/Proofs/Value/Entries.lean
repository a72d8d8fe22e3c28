import QueryGate.Value.Basic
/-!
Maps by their entries. Setting a key brings in nothing but that key and its value, so the entries that
settings leave have keys and values of the settings only. No key is left twice, and settings whose keys
differ are left as they are.
-/

namespace QueryGate

/-- Only a text is the same key as a text. -/
theorem Atom.sameKey_text_iff {key : Atom} {name : String} :
    key.sameKey (.text name) = true ↔ key = .text name := by
  cases key with
  | text other => rw [Atom.sameKey_text, beq_iff_eq, Atom.text.injEq]
  | _ => simp [Atom.sameKey]

namespace Entries

variable {β : Type}

theorem has_text_iff {entries : List (Atom × β)} {name : String} :
    has entries (.text name) = true ↔ .text name ∈ keys entries := by
  simp only [has, keys, List.any_eq_true, List.mem_map, Atom.sameKey_text_iff]

theorem mem_set {entry : Atom × β} {key : Atom} {value : β} {entries : List (Atom × β)}
    (member : entry ∈ set key value entries) :
    entry ∈ entries ∨ entry.2 = value ∧ (entry.1 = key ∨ entry.1 ∈ keys entries) := by
  induction entries with
  | nil =>
    rw [set, List.mem_singleton] at member
    subst member
    exact .inr ⟨rfl, .inl rfl⟩
  | cons first rest ih =>
    rw [set] at member
    split at member
    · rcases List.mem_cons.mp member with same | later
      · subst same
        exact .inr ⟨rfl, .inr (List.mem_cons_self ..)⟩
      · exact .inl (List.mem_cons_of_mem _ later)
    · rcases List.mem_cons.mp member with same | later
      · exact .inl (same ▸ List.mem_cons_self ..)
      · rcases ih later with kept | ⟨placed, new | known⟩
        · exact .inl (List.mem_cons_of_mem _ kept)
        · exact .inr ⟨placed, .inl new⟩
        · exact .inr ⟨placed, .inr (List.mem_cons_of_mem _ known)⟩

private theorem mem_set_text {entry : Atom × β} {name : String} {value : β} {entries : List (Atom × β)}
    (member : entry ∈ set (.text name) value entries) :
    entry ∈ entries ∨ entry = (.text name, value) := by
  induction entries with
  | nil => exact .inr (List.mem_singleton.mp member)
  | cons first rest ih =>
    rw [set] at member
    split at member
    next same =>
      rcases List.mem_cons.mp member with placed | later
      · rw [Atom.sameKey_text_iff.mp same] at placed
        exact .inr placed
      · exact .inl (List.mem_cons_of_mem _ later)
    next =>
      rcases List.mem_cons.mp member with kept | later
      · exact .inl (kept ▸ List.mem_cons_self ..)
      · exact (ih later).imp_left (List.mem_cons_of_mem _)

private theorem mem_foldl_set {entry : Atom × β} {settings entries : List (Atom × β)}
    (member : entry ∈ settings.foldl (fun kept setting => set setting.1 setting.2 kept) entries) :
    entry.1 ∈ keys (entries ++ settings) ∧ ∃ setting ∈ entries ++ settings, setting.2 = entry.2 := by
  induction settings generalizing entries with
  | nil =>
    rw [List.append_nil]
    exact ⟨List.mem_map_of_mem member, entry, member, rfl⟩
  | cons setting settings ih =>
    obtain ⟨known, source, inside, same⟩ := ih member
    have origin {other : Atom × β} (placed : other ∈ set setting.1 setting.2 entries ++ settings) :
        other.1 ∈ keys (entries ++ setting :: settings) ∧
          ∃ first ∈ entries ++ setting :: settings, first.2 = other.2 := by
      simp only [keys, List.map_append, List.map_cons, List.mem_append, List.mem_cons]
      rcases List.mem_append.mp placed with early | late
      · rcases mem_set early with kept | ⟨value, new | old⟩
        · exact ⟨.inl (List.mem_map_of_mem kept), other, .inl kept, rfl⟩
        · exact ⟨.inr (.inl new), setting, .inr (.inl rfl), value.symm⟩
        · exact ⟨.inl old, setting, .inr (.inl rfl), value.symm⟩
      · exact ⟨.inr (.inr (List.mem_map_of_mem late)), other, .inr (.inr late), rfl⟩
    obtain ⟨other, placed, key⟩ := List.mem_map.mp known
    exact ⟨key ▸ (origin placed).1, same ▸ (origin inside).2⟩

theorem key_mem_of_mem_ofSettings {entry : Atom × β} {settings : List (Atom × β)}
    (member : entry ∈ ofSettings settings) : entry.1 ∈ keys settings :=
  (mem_foldl_set member).1

theorem exists_value_of_mem_ofSettings {entry : Atom × β} {settings : List (Atom × β)}
    (member : entry ∈ ofSettings settings) : ∃ setting ∈ settings, setting.2 = entry.2 :=
  (mem_foldl_set member).2

/-! ## Keys that differ -/

def Distinct (entries : List (Atom × β)) : Prop :=
  (keys entries).Pairwise fun first second => first.sameKey second = false

theorem has_eq_false_iff {entries : List (Atom × β)} {key : Atom} :
    has entries key = false ↔ ∀ known ∈ keys entries, known.sameKey key = false := by
  simp [has, keys]

theorem distinct_iff_nodup {entries : List (Atom × β)} (texts : ∀ key ∈ keys entries, ∃ name, key = .text name) :
    Distinct entries ↔ (keys entries).Nodup := by
  refine List.Pairwise.iff_of_mem fun {first second} early late => ?_
  obtain ⟨_, rfl⟩ := texts first early
  obtain ⟨_, rfl⟩ := texts second late
  rw [Atom.sameKey_text, beq_eq_false_iff_ne, Ne, Ne, Atom.text.injEq]

theorem distinct_append {first second : List (Atom × β)} :
    Distinct (first ++ second) ↔ Distinct first ∧ Distinct second ∧
      ∀ early ∈ keys first, ∀ late ∈ keys second, early.sameKey late = false := by
  simp only [Distinct, keys, List.map_append, List.pairwise_append]

private theorem distinct_set {entries : List (Atom × β)} (distinct : Distinct entries) (key : Atom) (value : β) :
    Distinct (set key value entries) := by
  cases known : has entries key with
  | true =>
    rw [Distinct, keys_set_of_has known]
    exact distinct
  | false =>
    rw [set_of_not_has known, distinct_append]
    refine ⟨distinct, by simp [Distinct, keys], ?_⟩
    simpa [keys] using has_eq_false_iff.mp known

theorem distinct_ofSettings (settings : List (Atom × β)) : Distinct (ofSettings settings) := by
  have kept : ∀ entries : List (Atom × β), Distinct entries →
      Distinct (settings.foldl (fun entries setting => set setting.1 setting.2 entries) entries) := by
    induction settings with
    | nil => exact fun entries distinct => distinct
    | cons setting settings ih => exact fun entries distinct => ih _ (distinct_set distinct _ _)
  exact kept [] .nil

theorem ofSettings_of_distinct {settings : List (Atom × β)} (distinct : Distinct settings) :
    ofSettings settings = settings := by
  -- What is kept already must not meet its keys again either.
  have appended : ∀ kept : List (Atom × β), Distinct (kept ++ settings) →
      settings.foldl (fun entries setting => set setting.1 setting.2 entries) kept =
        kept ++ settings := by
    clear distinct
    induction settings with
    | nil => simp
    | cons setting settings ih =>
      intro kept distinct
      have fresh : has kept setting.1 = false :=
        has_eq_false_iff.mpr fun known member =>
          (distinct_append.mp distinct).2.2 known member setting.1 (by simp [keys])
      rw [List.foldl_cons, set_of_not_has fresh, ih, List.append_assoc, List.singleton_append]
      rwa [List.append_assoc, List.singleton_append]
  exact appended [] distinct

/-- Settings of texts are left as they were made, if they are left at all. -/
theorem mem_of_mem_ofSettings {entry : Atom × β} {settings : List (Atom × β)}
    (texts : ∀ key ∈ keys settings, ∃ name, key = .text name) (member : entry ∈ ofSettings settings) :
    entry ∈ settings := by
  have kept : ∀ entries : List (Atom × β),
      entry ∈ settings.foldl (fun entries setting => set setting.1 setting.2 entries) entries →
        entry ∈ entries ++ settings := by
    clear member
    induction settings with
    | nil => simp
    | cons setting settings ih =>
      intro entries member
      rcases setting with ⟨key, value⟩
      obtain ⟨name, rfl⟩ := texts key (List.mem_cons_self ..)
      have later := ih (fun other inside => texts other (List.mem_cons_of_mem _ inside)) _ member
      rcases List.mem_append.mp later with early | late
      · rcases mem_set_text early with old | rfl
        · exact List.mem_append_left _ old
        · exact List.mem_append_right _ (List.mem_cons_self ..)
      · exact List.mem_append_right _ (List.mem_cons_of_mem _ late)
  exact kept [] member

/-! ## Looking up -/

section LookingUp

variable {entries : List (Atom × β)} {name : String}

theorem get?_cons_text {key : Atom} {value : β} :
    get? ((key, value) :: entries) (.text name) =
      if key = .text name then some value else get? entries (.text name) := by
  rw [get?, List.find?_cons]
  by_cases same : key = .text name
  · rw [if_pos same, Atom.sameKey_text_iff.mpr same]
    rfl
  · rw [if_neg same, Bool.eq_false_iff.mpr (mt Atom.sameKey_text_iff.mp same)]
    rfl

theorem get?_append {first second : List (Atom × β)} {key : Atom} :
    get? (first ++ second) key = (get? first key).or (get? second key) := by
  rw [get?, List.find?_append, Option.map_or]
  rfl

theorem get?_text_eq_none_iff : get? entries (.text name) = none ↔ .text name ∉ keys entries := by
  rw [← has_text_iff, has, get?, Option.map_eq_none_iff, List.find?_eq_none, List.any_eq_true]
  simp

private theorem get?_set_text {key : String} {value : β} :
    get? (set (.text key) value entries) (.text name) =
      if Atom.text key = .text name then some value else get? entries (.text name) := by
  induction entries with
  | nil => rw [set, get?_cons_text]
  | cons entry rest ih =>
    rcases entry with ⟨other, old⟩
    rw [set]
    split
    next same =>
      obtain rfl := Atom.sameKey_text_iff.mp same
      rw [get?_cons_text, get?_cons_text]
      split <;> rfl
    next differs =>
      rw [get?_cons_text, get?_cons_text, ih]
      by_cases here : other = .text name
      · have apart : Atom.text key ≠ .text name := by
          intro same
          exact differs (Atom.sameKey_text_iff.mpr (here.trans same.symm))
        rw [if_pos here, if_neg apart, if_pos here]
      · rw [if_neg here, if_neg here]

/-- What settings leave of a text is the last that is set. -/
theorem get?_foldl_set {settings : List (Atom × β)} (texts : ∀ key ∈ keys settings, ∃ name, key = .text name) :
    get? (settings.foldl (fun kept setting => set setting.1 setting.2 kept) entries) (.text name) =
      (get? settings.reverse (.text name)).or (get? entries (.text name)) := by
  induction settings generalizing entries with
  | nil => rfl
  | cons setting settings ih =>
    rcases setting with ⟨key, value⟩
    obtain ⟨key, rfl⟩ := texts key (List.mem_cons_self ..)
    rw [List.foldl_cons, ih fun other inside => texts other (List.mem_cons_of_mem _ inside), get?_set_text,
      List.reverse_cons, get?_append, get?_cons_text, Option.or_assoc]
    split
    next => rfl
    next => rfl

theorem keys_set (key : Atom) (value : β) :
    keys (set key value entries) = if has entries key then keys entries else keys entries ++ [key] := by
  split
  next known => exact keys_set_of_has known value
  next new => simp [set_of_not_has (Bool.eq_false_iff.mpr new), keys]

/-- Entries with the same texts as keys, none twice, are the same if they hold the same. -/
theorem eq_of_get?_eq {others : List (Atom × β)} (same : keys entries = keys others)
    (texts : ∀ key ∈ keys entries, ∃ name, key = .text name) (distinct : (keys entries).Nodup)
    (held : ∀ name, get? entries (.text name) = get? others (.text name)) : entries = others := by
  induction entries generalizing others with
  | nil => exact (List.map_eq_nil_iff.mp same.symm).symm
  | cons entry entries ih =>
    rcases entry with ⟨key, value⟩
    cases others with
    | nil => cases same
    | cons other others =>
      rcases other with ⟨_, value'⟩
      obtain ⟨rfl, rest⟩ := List.cons.inj same
      obtain ⟨key, rfl⟩ := texts key (List.mem_cons_self ..)
      obtain ⟨fresh, distinct⟩ := List.nodup_cons.mp distinct
      have here := held key
      rw [get?_cons_text, get?_cons_text, if_pos rfl, if_pos rfl] at here
      rw [Option.some.inj here, ih rest (fun other inside => texts other (List.mem_cons_of_mem _ inside)) distinct]
      intro name
      have there := held name
      rw [get?_cons_text, get?_cons_text] at there
      by_cases first : Atom.text key = .text name
      · have absent : .text key ∉ keys others := by
          rw [keys, ← rest]
          exact fresh
        rw [← first, get?_text_eq_none_iff.mpr fresh, get?_text_eq_none_iff.mpr absent]
      · rwa [if_neg first, if_neg first] at there

end LookingUp

end Entries

end QueryGate
