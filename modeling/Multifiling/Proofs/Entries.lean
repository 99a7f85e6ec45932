import Mathlib.Data.List.Induction
import Mathlib.Data.List.Nodup
import Multifiling.Entries

/-!
Lookup in lists of entries. Putting a key changes what is found for it and nothing else
(`get?_put`); where keys are distinct, an entry is found by its key (`get?_eq_some_iff`). After a
list of puts every key has the last value that it was given, and the keys stand in the order in
which they were first put (`LeftBy`, `map_fst_putAll`).
-/

namespace Multifiling.Entries

variable {κ ν : Type} [DecidableEq κ] {entries : Entries κ ν} {k : κ} {v : ν} {e : κ × ν}

theorem get?_cons (entry : κ × ν) (rest : Entries κ ν) (k : κ) :
    get? (entry :: rest) k = if k = entry.1 then some entry.2 else rest.get? k := by
  rw [get?, get?, List.lookup_cons]
  by_cases h : k = entry.1
  · rw [if_pos h, beq_iff_eq.mpr h]
  · rw [if_neg h, beq_eq_false_iff_ne.mpr h]

/-- Putting a key changes what is found for it, and nothing else. -/
theorem get?_put (entries : Entries κ ν) (key : κ) (value : ν) (k : κ) :
    (entries.put key value).get? k = if k = key then some value else entries.get? k := by
  induction entries with
  | nil => rw [put, get?_cons]
  | cons entry rest ih =>
    obtain ⟨k', v⟩ := entry
    by_cases hkey : k' = key
    · subst hkey
      rw [put, if_pos (beq_self_eq_true k'), get?_cons, get?_cons]
      by_cases h : k = k'
      · rw [if_pos h, if_pos h]
      · rw [if_neg h, if_neg h, if_neg h]
    · rw [put, if_neg (by simpa using hkey), get?_cons, get?_cons, ih]
      by_cases h : k = k'
      · rw [if_pos h, if_pos h, if_neg (h ▸ hkey)]
      · rw [if_neg h, if_neg h]

/-- A key that has a value keeps it. -/
theorem get?_putNew (entries : Entries κ ν) (key : κ) (value : ν) (k : κ) :
    (entries.putNew key value).get? k =
      (entries.get? k).or (if k = key then some value else none) := by
  rw [putNew]
  split
  · next h =>
    by_cases hk : k = key
    · obtain ⟨w, hw⟩ := Option.isSome_iff_exists.mp h
      rw [hk, hw, Option.some_or]
    · rw [if_neg hk, Option.or_none]
  · rw [get?, List.lookup_append, ← get?, ← get?, get?_cons]
    rfl

/-! ### Keys -/

/-- A key that is put is a new one at the end, or there already. -/
theorem map_fst_put (entries : Entries κ ν) (key : κ) (value : ν) :
    (entries.put key value).map Prod.fst =
      if key ∈ entries.map Prod.fst then entries.map Prod.fst
      else entries.map Prod.fst ++ [key] := by
  induction entries with
  | nil => rfl
  | cons entry rest ih =>
    by_cases hkey : entry.1 = key
    · rw [put, if_pos (beq_iff_eq.mpr hkey)]
      simp [hkey]
    · rw [put, if_neg (by simpa using hkey), List.map_cons, ih, List.map_cons]
      simp only [List.mem_cons, show ¬key = entry.1 from fun h => hkey h.symm, false_or]
      split <;> rfl

/-! ### Members -/

theorem mem_put {key : κ} {value : ν} (h : e ∈ entries.put key value) :
    e ∈ entries ∨ e = (key, value) := by
  induction entries with
  | nil => exact .inr (List.mem_singleton.mp h)
  | cons entry rest ih =>
    rw [put] at h
    split at h
    · next hkey =>
      rcases List.mem_cons.mp h with h | h
      · exact .inr (h.trans (by rw [beq_iff_eq.mp hkey]))
      · exact .inl (List.mem_cons_of_mem _ h)
    · rcases List.mem_cons.mp h with h | h
      · exact .inl (h ▸ List.mem_cons_self)
      · exact (ih h).imp_left (List.mem_cons_of_mem _)

/-- What is in the list after all puts was there before or has been put. -/
theorem mem_putAll {pairs : List (κ × ν)} (h : e ∈ entries.putAll pairs) :
    e ∈ entries ∨ e ∈ pairs := by
  induction pairs generalizing entries with
  | nil => exact .inl h
  | cons pair rest ih =>
    rcases ih h with h | h
    · exact (mem_put h).imp_right fun heq => by rw [heq]; exact List.mem_cons_self
    · exact .inr (List.mem_cons_of_mem _ h)

theorem mem_of_get? (h : entries.get? k = some v) : (k, v) ∈ entries := by
  obtain ⟨before, after, rfl, -⟩ := List.lookup_eq_some_iff.mp h
  simp

/-- Where keys are distinct, every entry is found by its key. -/
theorem get?_eq_some_iff (hkeys : (entries.map Prod.fst).Nodup) :
    entries.get? k = some v ↔ (k, v) ∈ entries := by
  refine ⟨mem_of_get?, fun hmem => ?_⟩
  induction entries with
  | nil => cases hmem
  | cons entry rest ih =>
    rw [List.map_cons, List.nodup_cons] at hkeys
    rw [get?_cons]
    rcases List.mem_cons.mp hmem with rfl | hmem
    · exact if_pos rfl
    · rw [if_neg, ih hkeys.2 hmem]
      rintro rfl
      exact hkeys.1 (List.mem_map.mpr ⟨_, hmem, rfl⟩)

/-! ### Lists of puts -/

theorem get?_isSome_iff : (entries.get? k).isSome = true ↔ k ∈ entries.map Prod.fst := by
  rw [get?, List.lookup_isSome_iff, List.mem_map]
  exact ⟨fun ⟨entry, hmem, hk⟩ => ⟨entry, hmem, (beq_iff_eq.mp hk).symm⟩,
    fun ⟨entry, hmem, hk⟩ => ⟨entry, hmem, beq_iff_eq.mpr hk.symm⟩⟩

/-- The value that a key has after a list of puts: the last one that it was given. -/
def lastValue? (pairs : List (κ × ν)) (key : κ) : Option ν := pairs.reverse.lookup key

theorem lastValue?_concat (pairs : List (κ × ν)) (pair : κ × ν) (k : κ) :
    lastValue? (pairs ++ [pair]) k = if k = pair.1 then some pair.2 else lastValue? pairs k := by
  rw [lastValue?, List.reverse_concat]
  exact get?_cons pair pairs.reverse k

/-- Later pairs are asked first. -/
theorem lastValue?_append (pairs later : List (κ × ν)) (k : κ) :
    lastValue? (pairs ++ later) k = (lastValue? later k).or (lastValue? pairs k) := by
  rw [lastValue?, List.reverse_append, List.lookup_append]
  rfl

/-- Where keys are distinct, the last value of each is its only one. -/
theorem lastValue?_of_nodup (hkeys : (entries.map Prod.fst).Nodup) (k : κ) :
    lastValue? entries k = entries.get? k := by
  have hreverse : (entries.reverse.map Prod.fst).Nodup := by
    rw [List.map_reverse]
    exact List.nodup_reverse.mpr hkeys
  refine Option.ext fun v => ?_
  rw [get?_eq_some_iff hkeys, ← List.mem_reverse]
  exact get?_eq_some_iff hreverse

theorem lastValue?_isSome_iff {pairs : List (κ × ν)} :
    (lastValue? pairs k).isSome = true ↔ k ∈ pairs.map Prod.fst := by
  rw [← List.mem_reverse, ← List.map_reverse]
  exact get?_isSome_iff

/-- Entries as a list of puts leaves them: every key has its last value, and the keys stand in the
order in which they were first put. -/
structure LeftBy (pairs : List (κ × ν)) (entries : Entries κ ν) : Prop where
  value : ∀ k, entries.get? k = lastValue? pairs k
  order : (entries.map Prod.fst).Pairwise fun k l =>
    (pairs.map Prod.fst).idxOf k < (pairs.map Prod.fst).idxOf l

namespace LeftBy

variable {pairs : List (κ × ν)}

theorem nil : LeftBy ([] : List (κ × ν)) [] := ⟨fun _ => rfl, .nil⟩

theorem mem_keys_iff (h : LeftBy pairs entries) :
    k ∈ entries.map Prod.fst ↔ k ∈ pairs.map Prod.fst := by
  rw [← get?_isSome_iff, ← lastValue?_isSome_iff, h.value]

theorem nodup (h : LeftBy pairs entries) : (entries.map Prod.fst).Nodup :=
  h.order.imp fun hlt => by rintro rfl; exact Nat.lt_irrefl _ hlt

/-- A key that is put again keeps its place; a new one comes last. -/
theorem put (h : LeftBy pairs entries) (key : κ) (value : ν) :
    LeftBy (pairs ++ [(key, value)]) (entries.put key value) where
  value k := by rw [get?_put, lastValue?_concat, h.value]
  order := by
    have hold : ∀ k ∈ entries.map Prod.fst,
        ((pairs ++ [(key, value)]).map Prod.fst).idxOf k = (pairs.map Prod.fst).idxOf k := by
      intro k hk
      rw [List.map_append, List.idxOf_append_of_mem (h.mem_keys_iff.mp hk)]
    have hkept : (entries.map Prod.fst).Pairwise fun k l =>
        ((pairs ++ [(key, value)]).map Prod.fst).idxOf k <
          ((pairs ++ [(key, value)]).map Prod.fst).idxOf l := by
      refine h.order.imp_of_mem fun hk hl hlt => ?_
      rwa [hold _ hk, hold _ hl]
    rw [map_fst_put]
    split
    · exact hkept
    · next hkey =>
      refine List.pairwise_append.mpr ⟨hkept, List.pairwise_singleton _ _, fun k hk l hl => ?_⟩
      cases List.mem_singleton.mp hl
      have hnew : key ∉ pairs.map Prod.fst := fun hmem => hkey (h.mem_keys_iff.mpr hmem)
      rw [hold k hk, List.map_append, List.idxOf_append_of_notMem hnew]
      exact Nat.lt_add_right _ (List.idxOf_lt_length_iff.mpr (h.mem_keys_iff.mp hk))

theorem putAll (h : LeftBy pairs entries) (later : List (κ × ν)) :
    LeftBy (pairs ++ later) (entries.putAll later) := by
  induction later generalizing pairs entries with
  | nil => rwa [List.append_nil]
  | cons pair rest ih =>
    rw [List.append_cons]
    exact ih (h.put pair.1 pair.2)

end LeftBy

/-- The keys that a list of puts leaves are those that were put, each in its first place. -/
theorem map_fst_putAll (pairs : List (κ × ν)) :
    (putAll [] pairs).map Prod.fst = (pairs.map Prod.fst).eraseDups := by
  induction pairs using List.reverseRecOn with
  | nil => rfl
  | append_singleton pairs pair ih =>
    have hput : putAll [] (pairs ++ [pair]) = (putAll [] pairs).put pair.1 pair.2 := by
      simp [putAll]
    rw [hput, map_fst_put, ih, List.map_append, List.map_singleton, List.eraseDups_append]
    by_cases hkey : pair.1 ∈ pairs.map Prod.fst
    · have hrest : [pair.1].removeAll (pairs.map Prod.fst) = [] := by simp [List.removeAll, hkey]
      rw [if_pos (List.mem_eraseDups.mpr hkey), hrest, List.eraseDups_nil, List.append_nil]
    · have hrest : [pair.1].removeAll (pairs.map Prod.fst) = [pair.1] := by
        simp [List.removeAll, hkey]
      rw [if_neg (mt List.mem_eraseDups.mp hkey), hrest]
      rfl

/-- The key that was first put of those whose last value is `value`. -/
structure FirstWith (pairs : List (κ × ν)) (value : ν) (key : κ) : Prop where
  stands : lastValue? pairs key = some value
  first : ∀ other, lastValue? pairs other = some value →
    (pairs.map Prod.fst).idxOf key ≤ (pairs.map Prod.fst).idxOf other

variable {pairs : List (κ × ν)}

theorem FirstWith.unique {l : κ} (hk : FirstWith pairs v k) (hl : FirstWith pairs v l) : k = l := by
  have hmem : k ∈ pairs.map Prod.fst := by
    rw [← lastValue?_isSome_iff, hk.stands]
    rfl
  exact (List.idxOf_inj hmem).mp (Nat.le_antisymm (hk.first l hl.stands) (hl.first k hk.stands))

variable [DecidableEq ν]

/-- The first entry with a value is that of the key that was first put of those that have it. -/
theorem LeftBy.find?_eq_some_iff (h : LeftBy pairs entries) :
    (entries.find? fun e => e.2 = v).map Prod.fst = some k ↔ FirstWith pairs v k := by
  have hfound (k : κ) (hk : (entries.find? fun e => e.2 = v).map Prod.fst = some k) :
      FirstWith pairs v k := by
    obtain ⟨⟨k, w⟩, hfind, rfl⟩ := Option.map_eq_some_iff.mp hk
    obtain ⟨hw, before, after, hsplit, hbefore⟩ := List.find?_eq_some_iff_append.mp hfind
    obtain rfl : w = v := by simpa using hw
    have horder := h.order
    rw [hsplit, List.map_append, List.map_cons] at horder
    refine ⟨?_, fun other hother => ?_⟩
    · rw [← h.value, get?_eq_some_iff h.nodup, hsplit]
      exact List.mem_append_right _ List.mem_cons_self
    · -- the other entry is this one or stands behind it
      rw [← h.value, get?_eq_some_iff h.nodup, hsplit] at hother
      rcases List.mem_append.mp hother with hmem | hmem
      · have hne := hbefore _ hmem
        simp at hne
      · rcases List.mem_cons.mp hmem with heq | hmem
        · cases heq
          exact Nat.le_refl _
        · have hafter := (List.pairwise_cons.mp (List.pairwise_append.mp horder).2.1).1
          exact Nat.le_of_lt (hafter other (List.mem_map.mpr ⟨_, hmem, rfl⟩))
  refine ⟨hfound k, fun hfirst => ?_⟩
  have hmem : (k, v) ∈ entries := (get?_eq_some_iff h.nodup).mp ((h.value k).trans hfirst.stands)
  obtain ⟨e, he⟩ : ∃ e, (entries.find? fun e => e.2 = v) = some e :=
    Option.isSome_iff_exists.mp (List.find?_isSome.mpr ⟨_, hmem, decide_eq_true rfl⟩)
  have hkey := hfound e.1 (by rw [he]; rfl)
  rw [he, Option.map_some, hkey.unique hfirst]

end Multifiling.Entries
