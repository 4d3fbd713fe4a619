/-!
Association lists: pairs of a key and a value, of which the first with a key counts. Two laws say what
is found after a key was taken out, and after it was bound anew.
-/

namespace KubeletCollector.Association

variable {α β : Type} [DecidableEq α]

def without (key : α) (entries : List (α × β)) : List (α × β) :=
  entries.filter fun e => e.1 ≠ key

def bound (key : α) (value : β) (entries : List (α × β)) : List (α × β) :=
  (key, value) :: without key entries

variable [BEq α] [LawfulBEq α]

theorem lookup_without (key other : α) (entries : List (α × β)) :
    (without key entries).lookup other = if other = key then none else entries.lookup other := by
  induction entries with
  | nil => simp [without]
  | cons e entries ih =>
    obtain ⟨name, value⟩ := e
    unfold without at ih ⊢
    by_cases hn : name = key
    · subst hn
      rw [List.filter_cons_of_neg (by simp), ih]
      by_cases h : other = name
      · simp [h]
      · have : (other == name) = false := by simpa using h
        simp [h, List.lookup_cons, this]
    · rw [List.filter_cons_of_pos (by simpa using hn)]
      by_cases h : other = name
      · subst h
        simp [hn]
      · have : (other == name) = false := by simpa using h
        simpa [List.lookup_cons, this] using ih

theorem lookup_bound (key other : α) (value : β) (entries : List (α × β)) :
    (bound key value entries).lookup other = if other = key then some value else entries.lookup other := by
  by_cases h : other = key
  · simp [bound, h]
  · have : (other == key) = false := by simpa using h
    simp [bound, List.lookup_cons, this, lookup_without, h]

end KubeletCollector.Association
