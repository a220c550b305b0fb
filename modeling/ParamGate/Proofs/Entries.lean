import ParamGate.Value.Entries

/-!
Finding and putting entries, told in terms of membership. Looking up a key finds the entry that
holds it, which is the only one where keys are pairwise different.
-/

namespace ParamGate.Entries

@[simp] theorem contains_iff {es : Entries} {a : Value} :
    contains es a = true ↔ a.key ∈ es.keys := by
  have h := find?_eq_none_iff es a
  rw [contains, Option.isSome_iff_ne_none, ne_eq, h, Classical.not_not]

theorem mem_of_find? {es : Entries} {a v : Value} (h : find? es a = some v) :
    ∃ k, k.key = a.key ∧ (k, v) ∈ es := by
  induction es with
  | nil => cases h
  | cons p es ih =>
    rcases p with ⟨k, u⟩
    by_cases hk : k.key = a.key
    · rw [find?, if_pos hk] at h
      cases h
      exact ⟨k, hk, List.mem_cons_self⟩
    · rw [find?, if_neg hk] at h
      obtain ⟨k', hk', hm⟩ := ih h
      exact ⟨k', hk', List.mem_cons_of_mem _ hm⟩

theorem find?_of_mem {es : Entries} (hd : Distinct es) {k v a : Value} (hm : (k, v) ∈ es)
    (hk : k.key = a.key) : find? es a = some v := by
  induction es with
  | nil => cases hm
  | cons p es ih =>
    rcases p with ⟨k', u⟩
    have hd' : k'.key ∉ keys es ∧ Distinct es := List.nodup_cons.mp hd
    rcases List.mem_cons.mp hm with he | hm'
    · cases he
      rw [find?, if_pos hk]
    · have hne : k'.key ≠ a.key := by
        intro e
        exact hd'.1 (e.trans hk.symm ▸ List.mem_map_of_mem hm')
      rw [find?, if_neg hne]
      exact ih hd'.2 hm'

theorem find?_append (es fs : Entries) (a : Value) :
    find? (es ++ fs) a = (find? es a).or (find? fs a) := by
  induction es with
  | nil => rfl
  | cons p es ih =>
    rcases p with ⟨k, v⟩
    by_cases hk : k.key = a.key
    · rw [List.cons_append, find?, find?, if_pos hk, if_pos hk]
      rfl
    · rw [List.cons_append, find?, find?, if_neg hk, if_neg hk]
      exact ih

theorem mem_keys_iff {es : Entries} {x : Key} : x ∈ es.keys ↔ ∃ p ∈ es, p.1.key = x :=
  List.mem_map

theorem key_eq_text {v : Value} {s : String} : v.key = [.text s] ↔ v = .text s := by
  cases v <;> simp [Value.key, Value.numberKey, Value.rangeKey]
  split <;> simp

theorem contains_text_iff {es : Entries} {s : String} :
    contains es (.text s) = true ↔ ∃ v, (Value.text s, v) ∈ es := by
  rw [contains_iff, Value.key_text, mem_keys_iff]
  constructor
  · rintro ⟨⟨k, v⟩, hm, hk⟩
    obtain rfl := key_eq_text.mp hk
    exact ⟨v, hm⟩
  · rintro ⟨v, hm⟩
    exact ⟨_, hm, rfl⟩

theorem keys_append (es fs : Entries) : (es ++ fs : Entries).keys = es.keys ++ fs.keys :=
  List.map_append

theorem put_of_not_mem {es : Entries} {a : Value} (h : a.key ∉ es.keys) (b : Value) :
    put es a b = es ++ [(a, b)] := by
  induction es with
  | nil => rfl
  | cons p es ih =>
    rcases p with ⟨k, v⟩
    rw [keys, List.map_cons, List.mem_cons, not_or] at h
    rw [put, if_neg (Ne.symm h.1), ih h.2, List.cons_append]

def names (es : Entries) : List Value := es.map (·.1)

theorem names_put (es : Entries) (a b : Value) :
    names (put es a b) = if a.key ∈ keys es then names es else names es ++ [a] := by
  induction es with
  | nil => simp [put, names, keys]
  | cons p es ih =>
    rcases p with ⟨k, v⟩
    by_cases h : k.key = a.key
    · simp [put, names, keys, h]
    · have h' : a.key ≠ k.key := fun e => h e.symm
      have hmem : a.key ∈ keys ((k, v) :: es) ↔ a.key ∈ keys es := by simp [keys, h']
      have hput : names (put ((k, v) :: es) a b) = k :: names (put es a b) := by
        rw [put, if_neg h, names, names, List.map_cons]
      rw [hput, ih]
      simp only [hmem, names, List.map_cons]
      split <;> rfl

theorem text_mem_names {es : Entries} {s : String} :
    Value.text s ∈ names es ↔ (Value.text s).key ∈ keys es := by
  rw [← contains_iff, contains_text_iff, names, List.mem_map]
  simp

theorem mem_put {es : Entries} (hd : Distinct es) {a b : Value} {e : Value × Value}
    (h : e ∈ put es a b) : (e.1.key = a.key ∧ e.2 = b) ∨ (e ∈ es ∧ e.1.key ≠ a.key) := by
  induction es with
  | nil =>
    obtain rfl := List.mem_singleton.mp h
    exact .inl ⟨rfl, rfl⟩
  | cons p es ih =>
    rcases p with ⟨k, v⟩
    have hd' : k.key ∉ keys es ∧ Distinct es := List.nodup_cons.mp hd
    by_cases hk : k.key = a.key
    · rw [put, if_pos hk] at h
      rcases List.mem_cons.mp h with rfl | he
      · exact .inl ⟨hk, rfl⟩
      · have hne : e.1.key ≠ a.key := fun h' => hd'.1 (hk.trans h'.symm ▸ List.mem_map_of_mem he)
        exact .inr ⟨List.mem_cons_of_mem _ he, hne⟩
    · rw [put, if_neg hk] at h
      rcases List.mem_cons.mp h with rfl | he
      · exact .inr ⟨List.mem_cons_self, hk⟩
      · exact (ih hd'.2 he).imp_right fun h' => ⟨List.mem_cons_of_mem _ h'.1, h'.2⟩

theorem putAll_of_distinct {es fs : Entries} (h : Distinct (es ++ fs)) :
    putAll es fs = es ++ fs := by
  induction fs generalizing es with
  | nil => exact (List.append_nil es).symm
  | cons p fs ih =>
    have hd : Distinct ((es ++ [p]) ++ fs) := by
      rw [List.append_assoc]
      exact h
    have hkeys : (es.keys ++ (p.1.key :: keys fs)).Nodup := by
      rw [Distinct, keys_append] at h
      exact h
    have hnew : p.1.key ∉ es.keys := fun hm =>
      (List.nodup_append.mp hkeys).2.2 _ hm _ List.mem_cons_self rfl
    have hput : putAll es (p :: fs) = putAll (put es p.1 p.2) fs := rfl
    rw [hput, put_of_not_mem hnew, ih hd, List.append_assoc]
    rfl

theorem ofPairs_of_distinct {es : Entries} (h : Distinct es) : ofPairs es = es :=
  putAll_of_distinct h

/-- The same mapping, with its entries in any order. -/
structure Reordered (es es' : Entries) : Prop where
  distinct : Distinct es
  perm : es.Perm es'

namespace Reordered

variable {es es' : Entries} (h : Reordered es es')

include h

theorem keys_perm : es.keys.Perm es'.keys := h.perm.map _

theorem symm : Reordered es' es := ⟨h.keys_perm.nodup_iff.mp h.distinct, h.perm.symm⟩

theorem find?_eq (a : Value) : find? es' a = find? es a := by
  cases hv : find? es a with
  | none =>
    rw [find?_eq_none_iff] at hv ⊢
    exact fun hm => hv (h.keys_perm.mem_iff.mpr hm)
  | some v =>
    obtain ⟨k, hk, hm⟩ := mem_of_find? hv
    exact find?_of_mem h.symm.distinct (h.perm.mem_iff.mp hm) hk

theorem contains_eq (a : Value) : contains es' a = contains es a := by
  rw [contains, contains, h.find?_eq]

end Reordered

def restrict (keep : Value → Bool) (es : Entries) : Entries := es.filter fun p => keep p.1

section Restrict

variable {keep : Value → Bool}

@[simp] theorem restrict_nil : restrict keep [] = [] := rfl

theorem restrict_cons (p : Value × Value) (es : Entries) :
    restrict keep (p :: es) = if keep p.1 then p :: restrict keep es else restrict keep es :=
  List.filter_cons

theorem restrict_append (es fs : Entries) :
    restrict keep (es ++ fs) = restrict keep es ++ restrict keep fs :=
  List.filter_append ..

variable (hkeep : ∀ a b : Value, a.key = b.key → keep a = keep b)

include hkeep

theorem find?_restrict {a : Value} (ha : keep a = true) (es : Entries) :
    find? (restrict keep es) a = find? es a := by
  induction es with
  | nil => rfl
  | cons p es ih =>
    rcases p with ⟨k, v⟩
    rw [restrict_cons]
    by_cases hk : k.key = a.key
    · have hkept : keep k = true := (hkeep k a hk).trans ha
      rw [if_pos hkept, find?, find?, if_pos hk, if_pos hk]
    · rw [find?, if_neg hk, ← ih]
      split
      · rw [find?, if_neg hk]
      · rfl

theorem restrict_put (es : Entries) (a b : Value) :
    restrict keep (put es a b) =
      if keep a then put (restrict keep es) a b else restrict keep es := by
  induction es with
  | nil => simp [put, restrict_cons]
  | cons p es ih =>
    rcases p with ⟨k, v⟩
    by_cases hk : k.key = a.key
    · have hsame : keep k = keep a := hkeep k a hk
      rw [put, if_pos hk, restrict_cons, restrict_cons, hsame]
      cases keep a with
      | true => simp [put, hk]
      | false => rfl
    · rw [put, if_neg hk, restrict_cons, restrict_cons, ih]
      cases keep k <;> cases keep a <;> simp [put, hk]

theorem restrict_putAll (es : Entries) (pairs : List (Value × Value)) :
    restrict keep (putAll es pairs) = putAll (restrict keep es) (restrict keep pairs) := by
  induction pairs generalizing es with
  | nil => rfl
  | cons p pairs ih =>
    have hput : restrict keep (putAll es (p :: pairs)) =
        putAll (restrict keep (put es p.1 p.2)) (restrict keep pairs) := ih (put es p.1 p.2)
    rw [hput, restrict_put hkeep, restrict_cons]
    cases keep p.1 <;> rfl

theorem restrict_ofPairs (pairs : List (Value × Value)) :
    restrict keep (ofPairs pairs) = ofPairs (restrict keep pairs) :=
  restrict_putAll hkeep [] pairs

end Restrict

end ParamGate.Entries
