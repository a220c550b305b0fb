import ParamGate.Value.Key

/-!
The entries of a mapping, in order of insertion. Putting a key that is there already changes its
value and neither the key nor its place.
-/

namespace ParamGate.Entries

def find? : Entries → Value → Option Value
  | [], _ => none
  | (k, v) :: es, a => if k.key = a.key then some v else find? es a

def contains (es : Entries) (a : Value) : Bool := (find? es a).isSome

def put : Entries → Value → Value → Entries
  | [], a, b => [(a, b)]
  | (k, v) :: es, a, b => if k.key = a.key then (k, b) :: es else (k, v) :: put es a b

def erase : Entries → Value → Entries
  | [], _ => []
  | (k, v) :: es, a => if k.key = a.key then es else (k, v) :: erase es a

def putAll (es : Entries) (pairs : List (Value × Value)) : Entries :=
  pairs.foldl (fun es p => put es p.1 p.2) es

def ofPairs (pairs : List (Value × Value)) : Entries := putAll [] pairs

def keys (es : Entries) : List Key := es.map fun p => p.1.key

def Distinct (es : Entries) : Prop := es.keys.Nodup

theorem putAll_append (es : Entries) (xs ys : List (Value × Value)) :
    putAll es (xs ++ ys) = putAll (putAll es xs) ys :=
  List.foldl_append ..

theorem find?_eq_none_iff (es : Entries) (a : Value) : find? es a = none ↔ a.key ∉ es.keys := by
  induction es with
  | nil => simp [find?, keys]
  | cons p es ih =>
    obtain ⟨k, v⟩ := p
    by_cases h : k.key = a.key
    · simp [find?, keys, h]
    · have h' : a.key ≠ k.key := fun e => h e.symm
      simpa [find?, keys, h, h'] using ih

theorem keys_put (es : Entries) (a b : Value) :
    (put es a b).keys = if a.key ∈ es.keys then es.keys else es.keys ++ [a.key] := by
  induction es with
  | nil => simp [put, keys]
  | cons p es ih =>
    obtain ⟨k, v⟩ := p
    by_cases h : k.key = a.key
    · simp [put, keys, h]
    · have h' : a.key ≠ k.key := fun e => h e.symm
      have := ih
      simp only [keys] at this ⊢
      simp only [put, if_neg h, List.map_cons, this, List.mem_cons, h', false_or]
      split <;> rename_i hm <;> simp [hm]

theorem Distinct.put {es : Entries} (h : Distinct es) (a b : Value) : Distinct (put es a b) := by
  unfold Distinct at *
  rw [keys_put]
  split
  · exact h
  · rename_i hn
    exact List.nodup_append.mpr ⟨h, by simp, fun x hx y hy e => hn (by simp_all)⟩

theorem Distinct.putAll {es : Entries} (h : Distinct es) (pairs : List (Value × Value)) :
    Distinct (putAll es pairs) := by
  induction pairs generalizing es with
  | nil => exact h
  | cons p ps ih => exact ih (h.put p.1 p.2)

theorem distinct_ofPairs (pairs : List (Value × Value)) : Distinct (ofPairs pairs) :=
  Distinct.putAll (by simp [Distinct, keys]) pairs

end ParamGate.Entries
