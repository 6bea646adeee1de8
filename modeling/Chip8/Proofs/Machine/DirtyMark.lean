import Chip8.Proofs.Machine.Footprint
import Chip8.Proofs.Splits

/-!
# The mark of a screen that was drawn on

A host that paints the screen wants to know whether there is anything new to paint. The mark tells
it: the two instructions that draw set it, also where they leave every pixel as it was; taking the
picture and restarting the machine take it away; and nothing else touches the mark or the picture.

The history of a machine is the calls that led to it, read from the last one back (`DrawnSince`), so
the proofs go by the last call.

* `screen_of_execute`, `screen_of_step`: no instruction changes the picture without a mark.
* `dirty_of_drawsOn`, `screen_of_not_drawsOn`: what a cycle does to the screen.
* `marked_calls`: nor does a run that neither restarts nor takes pictures.
* `mark_tells`: what the mark tells of the history, and what an unmarked screen shows.
-/

namespace Chip8

/-- The screen is as it was or marked as drawn on. -/
def Screen.Marked (before after : Screen) : Prop :=
  after = before ∨ after.dirty = true

theorem Screen.Marked.trans {s t u : Screen} (h : s.Marked t) (h' : t.Marked u) : s.Marked u := by
  rcases h' with rfl | hu
  · exact h
  · exact .inr hu

/-- The calls after which nothing new is on the screen: it was put back, or its picture taken. -/
def Call.settles {τ : Type} : Call τ → Bool
  | present => true
  | c => c.restarts

theorem Call.settles_iff {τ : Type} {c : Call τ} :
    c.settles = true ↔ c = .present ∨ c.restarts = true := by
  cases c <;> simp [settles, restarts]

namespace Machine

variable {τ : Type} {m n : Machine τ} {i : Instruction}

/-! ## Instructions and steps -/

/-- The instructions that touch the screen mark it. -/
theorem dirty_of_execute (h : m.execute i = .ok n) (hi : i.touches .screen = true) :
    n.screen.dirty = true := by
  cases i with
  | clear => cases h; rfl
  | draw x y height => obtain ⟨_, -, rfl⟩ := Checked.eq_ok_iff.mp h; rfl
  | _ => cases hi

/-- **No instruction changes the picture without a mark.** -/
theorem screen_of_execute (h : m.execute i = .ok n) : m.screen.Marked n.screen := by
  cases hi : i.touches .screen with
  | false => exact .inl (same_of_execute h hi)
  | true => exact .inr (dirty_of_execute h hi)

theorem screen_of_step (m : Machine τ) : m.screen.Marked m.step.machine.screen := by
  rcases m.step_cases with h | ⟨-, h⟩ | ⟨key, -, h⟩ | ⟨d, n, -, -, he, h⟩ <;> rw [h]
  · exact .inl rfl
  · exact .inl rfl
  · exact .inl rfl
  · exact screen_of_execute (n := n) he

/-! ## Calls -/

variable [Seconds τ] {c : Call τ} {cs : List (Call τ)}

/-- The call is a cycle that carries out `00E0` or `DXYN`. -/
def DrawsOn (m : Machine τ) (c : Call τ) : Prop :=
  m.executed? c = some .clear ∨ ∃ x y height, m.executed? c = some (.draw x y height)

theorem drawsOn_iff : m.DrawsOn c ↔ ∃ i, m.executed? c = some i ∧ i.touches .screen = true := by
  constructor
  · rintro (h | ⟨x, y, height, h⟩)
    · exact ⟨_, h, rfl⟩
    · exact ⟨_, h, rfl⟩
  · rintro ⟨i, h, hi⟩
    cases i with
    | clear => exact .inl h
    | draw x y height => exact .inr ⟨x, y, height, h⟩
    | _ => cases hi

theorem dirty_of_drawsOn (h : m.DrawsOn c) : (m.call c).screen.dirty = true := by
  obtain ⟨i, he, hi⟩ := drawsOn_iff.mp h
  obtain ⟨t, n, rfl, hn, hcall⟩ := call_of_executed? he
  have hdirty : n.screen.dirty = true := dirty_of_execute hn hi
  rw [hcall]
  exact hdirty

/-- **Whatever does not draw leaves the screen alone**: other instructions, faults, waits, ticks of
the timers and keys. -/
theorem screen_of_not_drawsOn (hc : c.settles = false) (h : ¬ m.DrawsOn c) :
    (m.call c).screen = m.screen := by
  cases c with
  | reset => cases hc
  | load image name => cases hc
  | loadFile tree path => cases hc
  | present => cases hc
  | key code down => rfl
  | cycle t =>
    have huntouched : ∀ i, m.executed? (.cycle t) = some i → i.touches .screen = false := by
      intro i hi
      by_contra htouches
      exact h (drawsOn_iff.mpr ⟨i, hi, by simpa using htouches⟩)
    have hstep : (m.noted t).step.machine.screen = m.screen := same_of_cycle huntouched
    rw [call, cycleBy_snd]
    exact hstep

theorem screen_of_restarts (hc : c.restarts = true) : (m.call c).screen = .initial := by
  rw [m.frame_of_restarts hc]
  rfl

theorem dirty_of_settles (hc : c.settles = true) : (m.call c).screen.dirty = false := by
  rcases Call.settles_iff.mp hc with rfl | hrestarts
  · rfl
  · rw [screen_of_restarts hrestarts]
    rfl

/-- A call that settles nothing changes the picture no further than with a mark. -/
theorem marked_call (hc : c.settles = false) : m.screen.Marked (m.call c).screen := by
  by_cases h : m.DrawsOn c
  · exact .inr (dirty_of_drawsOn h)
  · exact .inl (screen_of_not_drawsOn hc h)

/-! ## Histories -/

theorem marked_calls (hcs : ∀ c ∈ cs, c.settles = false) :
    m.screen.Marked (m.calls cs).screen := by
  induction cs generalizing m with
  | nil => exact .inl rfl
  | cons c cs ih =>
    have hrest : (m.call c).screen.Marked ((m.call c).calls cs).screen :=
      ih fun d hd => hcs d (List.mem_cons_of_mem c hd)
    exact (marked_call (hcs c List.mem_cons_self)).trans hrest

/-- Something was drawn, and since then the screen was not put back and no picture taken. -/
def DrawnSince (m : Machine τ) (cs : List (Call τ)) : Prop :=
  ∃ before c since, cs = before ++ c :: since ∧ (m.calls before).DrawsOn c ∧
    ∀ d ∈ since, d.settles = false

theorem drawnSince_concat :
    m.DrawnSince (cs ++ [c]) ↔ (m.calls cs).DrawsOn c ∨ c.settles = false ∧ m.DrawnSince cs :=
  exists_since_concat

/-- **The mark says whether something was drawn** since the screen was put back or its picture taken
last. -/
theorem dirty_iff_drawnSince (hm : m.screen.dirty = false) :
    (m.calls cs).screen.dirty = true ↔ m.DrawnSince cs := by
  induction cs using List.reverseRecOn with
  | nil => simp [hm, DrawnSince]
  | append_singleton cs c ih =>
    have hcall : m.calls (cs ++ [c]) = (m.calls cs).call c := calls_append ..
    rw [hcall, drawnSince_concat]
    by_cases hdraws : (m.calls cs).DrawsOn c
    · simp [hdraws, dirty_of_drawsOn hdraws]
    · cases hc : c.settles with
      | true => simp [hdraws, dirty_of_settles hc]
      | false => simp [hdraws, screen_of_not_drawsOn hc hdraws, ih]

/-- An unmarked screen of which no picture was taken since it was put back is dark. -/
theorem frame_of_untaken (hm : m.screen = .initial)
    (hclean : (m.calls cs).screen.dirty = false)
    (huntaken : ∀ before since, cs = before ++ .present :: since →
      ∃ d ∈ since, d.restarts = true) :
    (m.calls cs).screen.frame = Frame.blank := by
  induction cs using List.reverseRecOn with
  | nil =>
    rw [calls_nil, hm]
    rfl
  | append_singleton cs c ih =>
    have hcall : m.calls (cs ++ [c]) = (m.calls cs).call c := calls_append ..
    rw [hcall] at hclean ⊢
    cases hc : c.settles with
    | false =>
      have hsame : ((m.calls cs).call c).screen = (m.calls cs).screen := by
        rcases marked_call (m := m.calls cs) hc with hsame | hdirty
        · exact hsame
        · rw [hclean] at hdirty
          cases hdirty
      rw [hsame] at hclean ⊢
      refine ih hclean fun before since hsplit => ?_
      obtain ⟨d, hd, hrestarts⟩ := huntaken before (since ++ [c]) (by simp [hsplit])
      rcases List.mem_append.mp hd with hd | hd
      · exact ⟨d, hd, hrestarts⟩
      · rw [List.mem_singleton.mp hd] at hrestarts
        rw [Call.settles_iff.mpr (.inr hrestarts)] at hc
        cases hc
    | true =>
      rcases Call.settles_iff.mp hc with rfl | hrestarts
      · obtain ⟨d, hd, -⟩ := huntaken cs [] rfl
        cases hd
      · rw [screen_of_restarts hrestarts]
        rfl

/-- **What the mark tells** of the calls `cs` on the machine `m`. -/
structure MarkTells (m : Machine τ) (cs : List (Call τ)) : Prop where
  /-- The screen is marked exactly if something was drawn since it was put back or its picture taken
  last. -/
  dirty_iff : (m.calls cs).screen.dirty = true ↔ m.DrawnSince cs
  /-- An unmarked screen shows the picture that was taken last, if one was since it was put back. -/
  taken : (m.calls cs).screen.dirty = false →
    ∀ before since, cs = before ++ .present :: since → (∀ d ∈ since, d.settles = false) →
      (m.calls cs).screen.frame = (m.calls before).screen.present.1
  /-- It is dark if none was: every picture that was taken comes before a restart. -/
  untaken : (m.calls cs).screen.dirty = false →
    (∀ before since, cs = before ++ .present :: since → ∃ d ∈ since, d.restarts = true) →
      (m.calls cs).screen.frame = Frame.blank

/-- **The mark is exact.** Whatever is done to a new machine. -/
theorem mark_tells (seed : Nat) (cs : List (Call τ)) : (initial seed).MarkTells cs where
  dirty_iff := dirty_iff_drawnSince rfl
  taken := by
    rintro hclean before since rfl hsince
    rw [calls_append, calls_cons] at hclean ⊢
    rcases marked_calls (m := ((initial seed).calls before).call .present) hsince with hsame | hdirty
    · rw [hsame]
      rfl
    · rw [hclean] at hdirty
      cases hdirty
  untaken hclean huntaken := frame_of_untaken rfl hclean huntaken

/-- A sprite of no rows leaves a mark; a fault, once the picture is taken, leaves none. -/
example :
    let m : Machine Rat := (initial 0).calls [.load [0xD0, 0x10, 0xFF, 0xFF] "", .cycle (.told 0)]
    let n := m.call .present
    m.screen.dirty = true ∧ (n.cycleBy (.told 0)).1.fault.isSome = true ∧
      (n.call (.cycle (.told 0))).screen.dirty = false := by
  decide +kernel

end Machine

end Chip8
