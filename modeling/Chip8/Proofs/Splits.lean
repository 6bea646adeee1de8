import Mathlib.Data.List.Induction

/-!
# Histories cut at an event

A history is a list of events, the last one at its end, and much is said of it by cutting it at an
event: something happened, and nothing of a kind since. What a history says so is proved from the
last event back, by how a cut can lie in a history with one more event: at that event or before it.

* `concat_eq_append_cons_iff`: where a cut can lie.
* `exists_since_concat`: what happened, and nothing of a kind since.
-/

namespace Chip8

variable {α : Type} {es before since : List α} {x e : α}

theorem concat_eq_append_cons_iff :
    es ++ [x] = before ++ e :: since ↔
      (es = before ∧ x = e ∧ since = []) ∨
        ∃ rest, since = rest ++ [x] ∧ es = before ++ e :: rest := by
  constructor
  · intro h
    rcases List.eq_nil_or_concat since with rfl | ⟨rest, y, rfl⟩
    · obtain ⟨hes, hx⟩ := List.append_inj' h rfl
      exact .inl ⟨hes, (List.cons.inj hx).1, rfl⟩
    · rw [List.concat_eq_append, ← List.cons_append, ← List.append_assoc] at h
      obtain ⟨hes, hx⟩ := List.append_inj' h rfl
      rw [List.concat_eq_append, (List.cons.inj hx).1]
      exact .inr ⟨rest, rfl, hes⟩
  · rintro (⟨rfl, rfl, rfl⟩ | ⟨rest, rfl, rfl⟩)
    · rfl
    · rw [List.append_assoc, List.cons_append]

/-- One more event: it is what happened, or it is none of the kind and it happened before. -/
theorem exists_since_concat {P : List α → α → Prop} {Q : α → Prop} :
    (∃ before e since, es ++ [x] = before ++ e :: since ∧ P before e ∧ ∀ d ∈ since, Q d) ↔
      P es x ∨
        Q x ∧ ∃ before e since, es = before ++ e :: since ∧ P before e ∧ ∀ d ∈ since, Q d := by
  constructor
  · rintro ⟨before, e, since, hsplit, hp, hsince⟩
    rcases concat_eq_append_cons_iff.mp hsplit with ⟨rfl, rfl, -⟩ | ⟨rest, rfl, rfl⟩
    · exact .inl hp
    · obtain ⟨hrest, hx⟩ := List.forall_mem_append.mp hsince
      exact .inr ⟨hx x List.mem_cons_self, before, e, rest, rfl, hp, hrest⟩
  · rintro (hp | ⟨hx, before, e, since, rfl, hp, hsince⟩)
    · exact ⟨es, x, [], rfl, hp, nofun⟩
    · refine ⟨before, e, since ++ [x], by rw [List.append_assoc, List.cons_append], hp, ?_⟩
      exact List.forall_mem_append.mpr ⟨hsince, List.forall_mem_singleton.mpr hx⟩

end Chip8
