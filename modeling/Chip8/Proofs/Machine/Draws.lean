import Chip8.Proofs.Machine.Footprint
import Chip8.Proofs.Machine.WellFormed

/-!
# The random bytes of a run

The seed of a machine fixes a stream of bytes. A program comes by them through one instruction only,
which takes the next byte and keeps of it what a mask lets through. `Machine.drawn` lists what a run
drew, read off its reports and its registers, without a look at the stream: so the list says how far
into the stream the machine is (`random_calls`), and the stream says what is in the list.

* `drawn_stored`: what one draw leaves in its register, and what it leaves of the stream.
* `random_of_no_draw`: whatever draws nothing leaves the stream where it was.
* `draws_of_restart`: the draws of a run are the bytes of the stream in order.
-/

namespace Chip8

namespace RandomStream

/-- What comes after the first byte is the stream that the first draw leaves. -/
theorem drop_draw (s : RandomStream) (k : Nat) : s.draw.2.drop k = s.drop (k + 1) := by
  induction k with
  | zero => rfl
  | succ k ih => exact congrArg (fun t => t.draw.2) ih

theorem nth_draw (s : RandomStream) (k : Nat) : s.draw.2.nth k = s.nth (k + 1) := by
  rw [nth, drop_draw, nth]

end RandomStream

/-- A random byte that a cycle drew: the register that it was for, the mask that it went through,
and what the register holds after the cycle. -/
structure DrawnByte where
  register : Nibble
  mask : UInt8
  stored : UInt8
  deriving DecidableEq, Repr

namespace Machine

variable {τ : Type} [Seconds τ] {m : Machine τ} {c : Call τ}

/-- What a call draws if it is a cycle that carries out the instruction for it. -/
def drawn? (m : Machine τ) (c : Call τ) : Option DrawnByte :=
  match m.executed? c with
  | some (.random x mask) => some ⟨x, mask, (m.call c).registers.get x⟩
  | _ => none

/-- What a sequence of calls draws, in order. -/
def drawn (m : Machine τ) : List (Call τ) → List DrawnByte
  | [] => []
  | c :: cs => (m.drawn? c).toList ++ (m.call c).drawn cs

/-! ## One call -/

/-- **A draw takes the next byte**, and what the mask leaves of it goes to the register. -/
theorem drawn_stored {d : DrawnByte} (h : m.drawn? c = some d) :
    d.stored = m.random.draw.1 &&& d.mask ∧ (m.call c).random = m.random.draw.2 := by
  unfold drawn? at h
  split at h
  next x mask he =>
    cases h
    obtain ⟨t, n, rfl, hn, hcall⟩ := call_of_executed? he
    cases hn
    rw [hcall]
    exact ⟨(Registers.get_set _ x x _).trans (if_pos rfl), rfl⟩
  next => cases h

/-- **Whatever draws nothing leaves the stream alone**: other instructions, faults, waits for a key,
ticks of the timers, keys and pictures. -/
theorem random_of_no_draw (hc : c.restarts = false) (h : m.drawn? c = none) :
    (m.call c).random = m.random := by
  cases c with
  | reset => cases hc
  | load image name => cases hc
  | loadFile tree path => cases hc
  | key code down => rfl
  | present => rfl
  | cycle t =>
    have huntouched : ∀ i, m.executed? (.cycle t) = some i → i.touches .random = false := by
      intro i he
      rw [drawn?, he] at h
      cases i with
      | random x mask => cases h
      | _ => rfl
    have hstep : (m.noted t).step.machine.random = m.random := same_of_cycle huntouched
    show (m.cycleBy t).2.random = m.random
    rw [cycleBy_snd]
    exact hstep

theorem random_of_restarts (m : Machine τ) (hc : c.restarts = true) :
    (m.call c).random = .ofSeed m.seed := by
  rw [m.frame_of_restarts hc]
  rfl

/-- No call changes the seed. -/
theorem seed_call (m : Machine τ) (c : Call τ) : (m.call c).seed = m.seed := by
  cases hc : c.restarts with
  | true => rw [m.frame_of_restarts hc, seed_reset]
  | false =>
    cases c with
    | cycle t =>
      show (m.cycleBy t).2.seed = m.seed
      rw [cycleBy_snd]
      exact (sameHost_of_step (m.noted t)).seed
    | key code down => rfl
    | present => rfl
    | _ => cases hc

/-! ## Runs -/

theorem seed_calls (m : Machine τ) (cs : List (Call τ)) : (m.calls cs).seed = m.seed := by
  induction cs generalizing m with
  | nil => rfl
  | cons c cs ih => rw [calls_cons, ih, seed_call]

/-- **How far into the stream a run comes**, and what it finds on the way. -/
theorem random_calls (m : Machine τ) {cs : List (Call τ)} (hcs : ∀ c ∈ cs, c.restarts = false) :
    (m.calls cs).random = m.random.drop (m.drawn cs).length ∧
      ∀ k d, (m.drawn cs)[k]? = some d → d.stored = m.random.nth k &&& d.mask := by
  induction cs generalizing m with
  | nil => exact ⟨rfl, nofun⟩
  | cons c cs ih =>
    obtain ⟨hrandom, hdrawn⟩ := ih (m.call c) fun d hd => hcs d (List.mem_cons_of_mem c hd)
    rw [calls_cons, hrandom, drawn]
    cases hd : m.drawn? c with
    | none =>
      rw [random_of_no_draw (hcs c List.mem_cons_self) hd] at hdrawn ⊢
      exact ⟨rfl, hdrawn⟩
    | some first =>
      obtain ⟨hstored, hrest⟩ := drawn_stored hd
      rw [hrest] at hdrawn ⊢
      refine ⟨RandomStream.drop_draw _ _, fun k d hk => ?_⟩
      cases k with
      | zero =>
        cases hk
        exact hstored
      | succ k => exact RandomStream.nth_draw m.random k ▸ hdrawn k d hk

/-- **How a machine draws** that has its bytes from `seed` and drew `ds` so far. -/
structure Draws (m : Machine τ) (seed : Nat) (ds : List DrawnByte) : Prop where
  /-- What is stored of a draw is its byte of the stream, as the mask leaves it. -/
  stored : ∀ k d, ds[k]? = some d → d.stored = (RandomStream.ofSeed seed).nth k &&& d.mask
  /-- The stream stands behind the bytes that were drawn. -/
  position : m.random = (RandomStream.ofSeed seed).drop ds.length
  /-- Whatever draws nothing leaves it there. -/
  others : ∀ c, c.restarts = false → m.drawn? c = none → (m.call c).random = m.random
  /-- The next restart puts it back to its first byte. -/
  again : ∀ c, c.restarts = true → (m.call c).random = .ofSeed seed

/-- **The random bytes of a run are those of the stream, in order.** From any reset or load, of a
file that cannot be read too, and through any run of cycles, keys and pictures: the `k`-th byte that
the run draws is the `k`-th of the stream that the seed fixes, whatever the masks let through of the
bytes before; nothing else moves the stream; and every reset or load puts it back. -/
theorem draws_of_restart (m : Machine τ) {start : Call τ} (hstart : start.restarts = true)
    {cs : List (Call τ)} (hcs : ∀ c ∈ cs, c.restarts = false) :
    (m.call start).random = .ofSeed m.seed ∧
      ((m.call start).calls cs).Draws m.seed ((m.call start).drawn cs) := by
  have hrandom := random_of_restarts m hstart
  obtain ⟨hposition, hstored⟩ := (m.call start).random_calls hcs
  rw [hrandom] at hposition hstored
  refine ⟨hrandom, hstored, hposition, fun c hc h => random_of_no_draw hc h, fun c hc => ?_⟩
  rw [random_of_restarts _ hc, seed_calls, seed_call]

/-- A program that draws three bytes, the second through a mask that lets nothing through. -/
def drawing : List UInt8 := [0xC0, 0xFF, 0xC1, 0x00, 0x62, 0x07, 0xC3, 0x0F, 0x12, 0x08]

/-- Its third byte is the third of the stream, though nothing came of the second. -/
theorem draws_of_restart_drawing :
    let start : Call Rat := .load drawing ""
    let cs : List (Call Rat) := [.cycle (.told 0), .key 3 true, .cycle (.told 1),
      .cycle (.measured 2), .cycle (.told 0)]
    let m : Machine Rat := initial 7
    start.restarts = true ∧ (∀ c ∈ cs, c.restarts = false) ∧
      ∃ d, ((m.call start).drawn cs)[2]? = some d ∧ d.register = 3 ∧
        d.stored = (RandomStream.ofSeed 7).nth 2 &&& 0x0F := by
  intro start cs m
  have hstart : start.restarts = true := rfl
  have hcs : ∀ c ∈ cs, c.restarts = false := by simp [cs, Call.restarts]
  have hthird : ((m.call start).drawn cs)[2]?.map (fun d => (d.register, d.mask)) =
      some (3, 0x0F) := by decide +kernel
  obtain ⟨d, hd, hpair⟩ := Option.map_eq_some_iff.mp hthird
  obtain ⟨hregister, hmask⟩ := Prod.mk.inj hpair
  have hstored := (draws_of_restart m hstart hcs).2.stored 2 d hd
  rw [hmask] at hstored
  exact ⟨hstart, hcs, d, hd, hregister, hstored⟩

end Machine

end Chip8
