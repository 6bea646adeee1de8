import Chip8.Proofs.Machine.WellFormed

/-!
# What a program learns of time and keys

A program sees time through the delay timer and the user through the keypad, and few instructions
look there: one reads the delay timer, two skip by a key and one takes a key (`Instruction.reads`).
What the machine is apart from timers, keypad and its note of the clock (`withoutInputs`) depends on
them only through these instructions. The others may still write to a timer, and every cycle ticks
both behind the program's back, so two runs are compared without them.

A run is a list of rounds: some keys are moved, and then a cycle takes its time.

* `execute_congr`: an instruction does the same to two machines that differ in inputs it does not
  read.
* `shown_cycleBy_congr`: so does a cycle, with the keypads the same while the machine waits for a
  key.
* `KeysUnread.round`: so does a round, and what the keys may differ in is handed on.
* `inputs_unread`: two runs show the same as long as the first reads nothing in which they differ.
-/

namespace Chip8

/-- Where a program can look beyond its own state. -/
inductive Input where
  | delay
  | keys
  deriving DecidableEq, Repr

/-- The instruction looks there. -/
def Instruction.reads : Instruction → Input → Bool
  | readDelay _, .delay => true
  | skipPressed _, .keys => true
  | skipReleased _, .keys => true
  | awaitKey _, .keys => true
  | _, _ => false

/-- The cycle carried out an instruction that looks there. -/
def CycleReport.reads (r : CycleReport) (source : Input) : Bool :=
  r.instruction.any (·.instruction.reads source)

/-- What happens up to the end of a cycle: keys are moved, and the cycle takes its time. -/
structure Round (τ : Type) where
  keys : List (Int × Bool)
  timing : Timing τ

namespace Machine

variable {τ : Type} {m n : Machine τ} {i : Instruction}

/-- Whoever looks there sees the same in both machines. -/
def SameInput (m n : Machine τ) : Input → Prop
  | .delay => m.timers.delay = n.timers.delay
  | .keys => m.keypad = n.keypad

variable [Seconds τ]

/-- The machine apart from timers, keypad and its note of the clock. -/
def withoutInputs (m : Machine τ) : Machine τ :=
  { m with timers := .initial, keypad := .initial, lastReading := none }

/-- Machines that are the same without inputs are the same but for their inputs. -/
theorem eq_of_withoutInputs (h : m.withoutInputs = n.withoutInputs) :
    n = { m with timers := n.timers, keypad := n.keypad, lastReading := n.lastReading } := by
  cases m
  cases n
  simp only [withoutInputs, mk.injEq] at h
  obtain ⟨rfl, rfl, rfl, rfl, -, rfl, -, rfl, rfl, rfl, -, rfl, rfl⟩ := h
  rfl

/-! ## Instructions -/

/-- **An instruction does the same to two machines that differ in inputs it does not read.** -/
theorem execute_congr (h : m.withoutInputs = n.withoutInputs)
    (hi : ∀ source, i.reads source = true → m.SameInput n source) :
    (m.execute i).map withoutInputs = (n.execute i).map withoutInputs := by
  have hn := eq_of_withoutInputs h
  revert hi
  generalize n.timers = timers, n.keypad = keypad, n.lastReading = reading at hn
  subst hn
  intro hi
  cases i with
  | ret => rw [execute, execute, Checked.map_eq, Checked.map_eq]; rfl
  | call target => rw [execute, execute, Checked.map_eq, Checked.map_eq]; rfl
  | draw x y height => rw [execute, execute, Checked.map_eq, Checked.map_eq]; rfl
  | decimal x => rw [execute, execute, Checked.map_eq, Checked.map_eq]; rfl
  | store x => rw [execute, execute, Checked.map_eq, Checked.map_eq]; rfl
  | load x => rw [execute, execute, Checked.map_eq, Checked.map_eq]; rfl
  | readDelay x =>
    have hdelay : m.timers.delay = timers.delay := hi .delay rfl
    simp only [execute, hdelay]
    rfl
  | skipPressed x =>
    have hkeys : m.keypad = keypad := hi .keys rfl
    subst hkeys
    rfl
  | skipReleased x =>
    have hkeys : m.keypad = keypad := hi .keys rfl
    subst hkeys
    rfl
  | awaitKey x =>
    have hkeys : m.keypad = keypad := hi .keys rfl
    subst hkeys
    simp only [execute, awaitKey]
    cases m.keypad.highestPressed <;> rfl
  | _ => rfl

/-! ## Steps and cycles -/

/-- What a step shows of the program: its machine without inputs. -/
def shownStep (s : Step τ) : Step τ :=
  { s with machine := s.machine.withoutInputs }

/-- What the step of a running machine shows once its instruction is fetched. -/
theorem shownStep_of_fetch {d : Decoded} (hs : m.status = .running) (hd : m.fetch = .ok d) :
    m.step.instruction = some d ∧
      shownStep m.step = match (m.execute d.instruction).map withoutInputs with
        | .error f => ⟨m.withoutInputs, some d, some f⟩
        | .ok k => ⟨k.counted, some d, none⟩ := by
  cases he : m.execute d.instruction with
  | error f =>
    rw [step_of_execute_error hs hd he]
    exact ⟨rfl, rfl⟩
  | ok k =>
    rw [step_of_execute hs hd he]
    exact ⟨rfl, rfl⟩

/-- **Steps of two machines show the same** if the machines differ only in inputs that the first
step does not look at; while it waits for a key, a machine looks at the keypad. -/
theorem shownStep_congr (h : m.withoutInputs = n.withoutInputs)
    (hw : m.status = .awaitingKey → m.keypad = n.keypad)
    (hi : ∀ d, m.step.instruction = some d →
      ∀ source, d.instruction.reads source = true → m.SameInput n source) :
    shownStep m.step = shownStep n.step := by
  have hn := eq_of_withoutInputs h
  have hstatus : n.status = m.status := (congrArg status h).symm
  have hfetch : n.fetch = m.fetch := by rw [hn]; rfl
  cases hs : m.status with
  | awaitingKey =>
    rw [step_of_awaiting hs, step_of_awaiting (hstatus.trans hs), hn, ← hw hs]
    unfold pollKey
    cases m.keypad.highestPressed <;> rfl
  | running =>
    have hsn := hstatus.trans hs
    cases hd : m.fetch with
    | error f =>
      rw [step_of_fetch_error hs hd, step_of_fetch_error hsn (hfetch.trans hd)]
      exact congrArg (Step.mk · none (some f)) h
    | ok d =>
      obtain ⟨hinstruction, hshown⟩ := shownStep_of_fetch hs hd
      rw [hshown, (shownStep_of_fetch hsn (hfetch.trans hd)).2, h,
        execute_congr h (hi d hinstruction)]

omit [Seconds τ] in
/-- A machine waits after a step only if it waited before or took up an instruction for a key. -/
theorem status_of_step (hs : m.status = .running)
    (hk : ∀ d, m.step.instruction = some d → d.instruction.reads .keys = false) :
    m.step.machine.status = .running := by
  rcases m.step_cases with h | ⟨hw, -⟩ | ⟨key, hw, -⟩ | ⟨d, n, -, hd, he, h⟩
  · rw [h]
    exact hs
  · cases hs.symm.trans hw
  · cases hs.symm.trans hw
  · have hreads := hk d (by rw [step_of_execute hs hd he])
    rw [h]
    rcases (outcome_of_execute hs (fetch_eq_ok_iff.mp hd).1 he).status with hn | ⟨x, hx, -⟩
    · exact hn
    · rw [hx] at hreads
      cases hreads

/-- What a cycle shows of the program: what it did, and the machine after it without inputs. -/
def shown (c : CycleReport × Machine τ) : Step τ :=
  ⟨c.2.withoutInputs, c.1.instruction, c.1.fault⟩

theorem shown_cycleBy (m : Machine τ) (t : Timing τ) :
    shown (m.cycleBy t) = shownStep (m.noted t).step := by
  rw [cycleBy_eq]
  rfl

theorem keypad_cycleBy (m : Machine τ) (t : Timing τ) : (m.cycleBy t).2.keypad = m.keypad := by
  rw [cycleBy_snd]
  exact (sameHost_of_step (m.noted t)).keypad

/-- **Cycles of two machines show the same**, however long each takes, if the machines differ only
in inputs that the first cycle does not look at. -/
theorem shown_cycleBy_congr (h : m.withoutInputs = n.withoutInputs) (t u : Timing τ)
    (hw : m.status = .awaitingKey → m.keypad = n.keypad)
    (hi : ∀ source, (m.cycleBy t).1.reads source = true → m.SameInput n source) :
    shown (m.cycleBy t) = shown (n.cycleBy u) := by
  rw [shown_cycleBy, shown_cycleBy]
  refine shownStep_congr h hw fun d hd source hs => hi source ?_
  rw [CycleReport.reads, cycleBy_instruction, hd]
  exact hs

/-- A running machine that looks at no key in a cycle runs on. -/
theorem status_cycleBy (hs : m.status = .running) {t : Timing τ}
    (hk : (m.cycleBy t).1.reads .keys = false) : (m.cycleBy t).2.status = .running := by
  rw [cycleBy_snd]
  refine status_of_step (m := m.noted t) hs fun d hd => ?_
  rw [CycleReport.reads, cycleBy_instruction, hd] at hk
  exact hk

/-! ## Rounds -/

/-- The machine once some keys were moved. -/
def keyed (m : Machine τ) (ks : List (Int × Bool)) : Machine τ :=
  m.calls (ks.map fun k => .key k.1 k.2)

theorem keyed_eq (m : Machine τ) (ks : List (Int × Bool)) :
    m.keyed ks = { m with keypad := ks.foldl (fun pad k => pad.setKey k.1 k.2) m.keypad } := by
  induction ks generalizing m with
  | nil => rfl
  | cons k ks ih => exact ih (m.setKey k.1 k.2)

/-- What a round's cycle reports, and the machine after it. -/
def round (m : Machine τ) (r : Round τ) : CycleReport × Machine τ :=
  (m.keyed r.keys).cycleBy r.timing

/-- The same of one round after another. -/
def rounds (m : Machine τ) : List (Round τ) → List (CycleReport × Machine τ)
  | [] => []
  | r :: rs => m.round r :: (m.round r).2.rounds rs

/-- What the keys may differ in: nothing, or else the machine runs and looks at none. -/
def KeysUnread (m n : Machine τ) (rs ss : List (Round τ)) : Prop :=
  (m.keypad = n.keypad ∧ rs.map Round.keys = ss.map Round.keys) ∨
    (m.status = .running ∧ ∀ c ∈ m.rounds rs, c.1.reads .keys = false)

variable {rs ss : List (Round τ)}

/-- **One round shows the same**, and hands on what the keys may differ in. -/
theorem KeysUnread.round {r s : Round τ} (hk : KeysUnread m n (r :: rs) (s :: ss))
    (h : m.withoutInputs = n.withoutInputs) (hd : (m.round r).1.reads .delay = false) :
    shown (m.round r) = shown (n.round s) ∧ KeysUnread (m.round r).2 (n.round s).2 rs ss := by
  have hkeyed : (m.keyed r.keys).withoutInputs = (n.keyed s.keys).withoutInputs := by
    rw [keyed_eq, keyed_eq]
    exact h
  rcases hk with ⟨hpad, hkeys⟩ | ⟨hs, hread⟩
  · obtain ⟨hkey, hkeys⟩ := List.cons.inj hkeys
    have hpads : (m.keyed r.keys).keypad = (n.keyed s.keys).keypad := by
      rw [keyed_eq, keyed_eq, hpad, hkey]
    refine ⟨shown_cycleBy_congr hkeyed _ _ (fun _ => hpads) fun source hi => ?_, .inl ⟨?_, hkeys⟩⟩
    · cases source with
      | delay => exact absurd (hd.symm.trans hi) Bool.false_ne_true
      | keys => exact hpads
    · rw [Machine.round, Machine.round, keypad_cycleBy, keypad_cycleBy, hpads]
  · have hrunning : (m.keyed r.keys).status = .running := by
      rw [keyed_eq]
      exact hs
    have hunread : (m.round r).1.reads .keys = false := hread _ List.mem_cons_self
    refine ⟨shown_cycleBy_congr hkeyed _ _ (fun hw => ?_) fun source hi => ?_,
      .inr ⟨status_cycleBy hrunning hunread, fun c hc => hread c (List.mem_cons_of_mem _ hc)⟩⟩
    · rw [hrunning] at hw
      cases hw
    · cases source with
      | delay => exact absurd (hd.symm.trans hi) Bool.false_ne_true
      | keys => exact absurd (hunread.symm.trans hi) Bool.false_ne_true

/-- Rounds show the same for as long as nothing is read in which the machines, the times or the keys
differ. -/
theorem shown_rounds (h : m.withoutInputs = n.withoutInputs) (hk : KeysUnread m n rs ss)
    (hlen : rs.length = ss.length) (hd : ∀ c ∈ m.rounds rs, c.1.reads .delay = false) :
    (m.rounds rs).map shown = (n.rounds ss).map shown := by
  induction rs generalizing m n ss with
  | nil =>
    rw [List.length_eq_zero_iff.mp hlen.symm]
    rfl
  | cons r rs ih =>
    obtain _ | ⟨s, ss⟩ := ss
    · cases hlen
    · obtain ⟨hshown, hnext⟩ := hk.round h (hd _ List.mem_cons_self)
      have hmachine : (m.round r).2.withoutInputs = (n.round s).2.withoutInputs :=
        congrArg Step.machine hshown
      rw [rounds, rounds, List.map_cons, List.map_cons, hshown,
        ih hmachine hnext (Nat.succ.inj hlen) fun c hc => hd c (List.mem_cons_of_mem _ hc)]

/-- **A program learns of time and keys only by reading them.** Take two runs of as many rounds from
one running machine, their cycles taking whatever times. If the first reads the delay timer in no
cycle, then the same keys make for the same instructions, faults and machines, cycle after cycle,
but for timers, keypad and clock; and if it reads no key either, so do any other keys. -/
theorem inputs_unread (hs : m.status = .running) (hlen : rs.length = ss.length)
    (hd : ∀ c ∈ m.rounds rs, c.1.reads .delay = false) :
    (rs.map Round.keys = ss.map Round.keys →
        (m.rounds rs).map shown = (m.rounds ss).map shown) ∧
      ((∀ c ∈ m.rounds rs, c.1.reads .keys = false) →
        (m.rounds rs).map shown = (m.rounds ss).map shown) :=
  ⟨fun hkeys => shown_rounds rfl (.inl ⟨rfl, hkeys⟩) hlen hd,
    fun hread => shown_rounds rfl (.inr ⟨hs, hread⟩) hlen hd⟩

/-- A program that sets the delay timer and then counts, without a look at timer or keys. -/
def countingBlindly : List UInt8 := [0x60, 0x05, 0xF0, 0x15, 0x71, 0x01, 0x12, 0x04]

/-- Two runs of it, with other keys and other times: their delay timers run apart, and it does not
show. -/
theorem inputs_unread_countingBlindly :
    let m : Machine Rat := (initial 0).call (.load countingBlindly "")
    let rs : List (Round Rat) := [⟨[], .told 0⟩, ⟨[(3, true)], .told 0⟩, ⟨[], .told 1⟩]
    let ss : List (Round Rat) :=
      [⟨[], .told 2⟩, ⟨[(7, true)], .measured 9⟩, ⟨[(7, false)], .told 0⟩]
    m.status = .running ∧ rs.length = ss.length ∧
      (∀ c ∈ m.rounds rs, c.1.reads .delay = false ∧ c.1.reads .keys = false) ∧
      (m.rounds rs).map (·.2.timers.delay) = [0, 5, 4] ∧
      (m.rounds ss).map (·.2.timers.delay) = [0, 5, 5] ∧
      (m.rounds rs).map shown = (m.rounds ss).map shown := by
  intro m rs ss
  have hreads : ∀ c ∈ m.rounds rs, c.1.reads .delay = false ∧ c.1.reads .keys = false := by
    decide +kernel
  have hs : m.status = .running := rfl
  have hlen : rs.length = ss.length := rfl
  have hshown := (inputs_unread hs hlen fun c hc => (hreads c hc).1).2 fun c hc => (hreads c hc).2
  exact ⟨hs, hlen, hreads, by decide +kernel, by decide +kernel, hshown⟩

end Machine

end Chip8
