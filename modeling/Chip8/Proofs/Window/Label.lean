import Chip8.Proofs.Window.Steady

/-!
# The label of the program

The status bar has a label for the program. A load of a file by its path writes it, whatever comes
of it, and so does a reload that fails; a reload that succeeds leaves it as it is. So the label
tells what became of the newest attempt, unless that is a reload that went well after another
attempt had failed: then it still says that a load failed.

* `Window.label_of_askings`: what the label says, and exactly when it is true.
* `Window.label_untrue`: it can be untrue.
-/

namespace Chip8

/-- An attempt of a window to load a program. -/
structure Asking extends Attempt where
  /-- The program was asked for by its path, not anew. -/
  byPath : Bool

namespace Asking

/-- A program was asked for by its path and could be loaded. -/
def opened (t : Asking) : Bool :=
  t.byPath && t.succeeded

/-- The attempts since a program was opened last. Here and below the newest attempt is the first. -/
def sinceOpened (ts : List Asking) : List Asking :=
  ts.takeWhile fun t => !t.opened

/-- **One of them failed.** -/
def marred (ts : List Asking) : Bool :=
  (sinceOpened ts).any fun t => !t.succeeded

/-- The file that a reload is for. -/
def lastPath (ts : List Asking) : Option String :=
  Attempt.lastPath (ts.map toAttempt)

variable {t : Asking} {ts : List Asking}

theorem marred_cons_of_opened (h : t.opened = true) : marred (t :: ts) = false := by
  rw [marred, sinceOpened, List.takeWhile_cons, h]
  rfl

theorem marred_cons (h : t.opened = false) : marred (t :: ts) = (!t.succeeded || marred ts) := by
  rw [marred, sinceOpened, List.takeWhile_cons, h]
  rfl

theorem opened_of_failed (h : t.succeeded = false) : t.opened = false := by
  rw [opened, h, Bool.and_false]

theorem marred_cons_of_failed (h : t.succeeded = false) : marred (t :: ts) = true := by
  rw [marred_cons (opened_of_failed h), h]
  rfl

theorem lastPath_cons : lastPath (t :: ts) = if t.succeeded then some t.path else lastPath ts := by
  rw [lastPath, List.map_cons, Attempt.lastPath, List.find?_cons]
  cases t.succeeded <;> rfl

end Asking

open Asking (marred lastPath)

/-- The attempt that a deed makes after those made before. -/
def Deed.asking? (ts : List Asking) : Deed → Option Asking
  | .load tree path => some ⟨⟨path, tree.read path⟩, true⟩
  | .reload tree => (lastPath ts).map fun path => ⟨⟨path, tree.read path⟩, false⟩
  | _ => none

/-- The attempts, with that of the deed. -/
def Deed.noted (ts : List Asking) (d : Deed) : List Asking :=
  (d.asking? ts).toList ++ ts

theorem Deed.noted_load (ts : List Asking) (tree : FileTree) (path : String) :
    (Deed.load tree path).noted ts = ⟨⟨path, tree.read path⟩, true⟩ :: ts := rfl

theorem Deed.noted_reload {ts : List Asking} {path : String} (h : lastPath ts = some path)
    (tree : FileTree) :
    (Deed.reload tree).noted ts = ⟨⟨path, tree.read path⟩, false⟩ :: ts := by
  rw [noted, asking?, h]
  rfl

theorem Deed.noted_reload_of_none {ts : List Asking} (h : lastPath ts = none) (tree : FileTree) :
    (Deed.reload tree).noted ts = ts := by
  rw [noted, asking?, h]
  rfl

/-- The act asks for no path with a NUL. -/
def WindowAct.NulFree : WindowAct → Prop
  | .keyboard _ _ _ choice => '\x00' ∉ choice.toList
  | .load _ path => '\x00' ∉ path.toList
  | .task _ _ choice => '\x00' ∉ choice.toList
  | _ => True

/-- A program is asked for by its path, or with the key that loads it anew. -/
def WindowAct.IsLoad : WindowAct → Prop
  | .load _ _ => True
  | .keyboard _ b _ _ => b = .reload
  | _ => False

/-- The deed asks for no path with a NUL. -/
def Deed.NulFree : Deed → Prop
  | .load _ path => '\x00' ∉ path.toList
  | _ => True

namespace ProgramInfo

/-- The name of the program. -/
def name (i : ProgramInfo) : String :=
  match i.image with
  | some image => image.name
  | none => ""

/-- **What ties a window to its attempts.** -/
structure Follows (i : ProgramInfo) (ts : List Asking) : Prop where
  path : i.path = lastPath ts
  /-- No path that was ever loaded holds a NUL. -/
  readable : ∀ path, i.path = some path → '\x00' ∉ path.toList
  /-- There is a program just if the newest attempt succeeded, and it has the name of its file. -/
  image : i.image.map ImageInfo.name =
    (ts.head?.filter (·.succeeded)).map fun t => imageName (baseName t.path)
  label : i.label = if marred ts then "Load failed" else if ts.isEmpty then "No ROM"
    else "ROM: " ++ i.name

variable {i : ProgramInfo} {t : Asking} {ts : List Asking}

theorem Follows.name_eq (h : i.Follows (t :: ts)) (ht : t.succeeded = true) :
    i.name = imageName (baseName t.path) := by
  have himage := h.image
  rw [List.head?_cons, Option.filter_some, ht, if_pos rfl, Option.map_some] at himage
  obtain ⟨image, hsome, hname⟩ := Option.map_eq_some_iff.mp himage
  rw [name, hsome, ← hname]

theorem Follows.isSome_iff (h : i.Follows ts) :
    i.image.isSome = true ↔ ∃ t, ts.head? = some t ∧ t.succeeded = true := by
  rw [← Option.isSome_map (f := ImageInfo.name), h.image, Option.isSome_map, Option.isSome_filter,
    Option.any_eq_true]

/-- Where no attempt failed since a program was opened, the label has the name of the newest, which
is the one that a reload is for. -/
theorem Follows.label_of_path (h : i.Follows ts) {path : String} (hpath : i.path = some path)
    (hmarred : marred ts = false) : i.label = "ROM: " ++ imageName (baseName path) := by
  have hlast : lastPath ts = some path := h.path.symm.trans hpath
  cases ts with
  | nil => cases hlast
  | cons t ts =>
    have ht : t.succeeded = true := by
      by_contra hfailed
      rw [Asking.marred_cons_of_failed (Bool.eq_false_iff.mpr hfailed)] at hmarred
      cases hmarred
    rw [Asking.lastPath_cons, if_pos ht] at hlast
    have hlabel := h.label
    rw [hmarred, if_neg Bool.false_ne_true, List.isEmpty_cons, if_neg Bool.false_ne_true,
      h.name_eq ht, Option.some.inj hlast] at hlabel
    exact hlabel

/-! ## One attempt -/

/-- A program that is opened. -/
theorem follows_opened {path : String} (hpath : '\x00' ∉ path.toList) (image : List UInt8)
    (size : Nat) :
    Follows ⟨some path, some ⟨imageName (baseName path), size⟩,
        "ROM: " ++ imageName (baseName path)⟩
      (⟨⟨path, .ok image⟩, true⟩ :: ts) where
  path := rfl
  readable p hp := Option.some.inj hp ▸ hpath
  image := rfl
  label := by rw [Asking.marred_cons_of_opened rfl]; rfl

/-- An attempt that fails. -/
theorem Follows.failed (h : i.Follows ts) (path : String) (e : ReadError) (byPath : Bool) :
    Follows ⟨i.path, none, "Load failed"⟩ (⟨⟨path, .error e⟩, byPath⟩ :: ts) where
  path := h.path
  readable := h.readable
  image := rfl
  label := by rw [Asking.marred_cons_of_failed rfl]; rfl

/-- A program that is loaded again. -/
theorem Follows.loadedAgain (h : i.Follows ts) {path : String} (hpath : i.path = some path)
    (image : List UInt8) (size : Nat) :
    Follows ⟨some path, some ⟨imageName (baseName path), size⟩, i.label⟩
      (⟨⟨path, .ok image⟩, false⟩ :: ts) where
  path := rfl
  readable p hp := h.readable p (hpath.trans hp)
  image := rfl
  label := by
    have hsame : marred (⟨⟨path, .ok image⟩, false⟩ :: ts) = marred ts := Asking.marred_cons rfl
    rw [hsame]
    cases hmarred : marred ts with
    | false => exact h.label_of_path hpath hmarred
    | true =>
      have hlabel := h.label
      rw [hmarred] at hlabel
      exact hlabel

end ProgramInfo

/-! ## Deeds -/

namespace Session

variable (s : Session Float) {tree : FileTree} {path : String}

theorem info_load_of_ok {image : List UInt8} (h : tree.read path = .ok image)
    (before told : String) :
    (s.load tree path).info before told =
      ⟨some path, some ⟨imageName (baseName path), Memory.imageSize image⟩, told⟩ := by
  rw [s.load_of_ok h]
  rfl

theorem info_load_of_error {e : ReadError} (h : tree.read path = .error e)
    (hpath : '\x00' ∉ path.toList) (before told : String) :
    (s.load tree path).info before told = ⟨s.path, none, "Load failed"⟩ := by
  have he : e ≠ .nulInPath := by
    rintro rfl
    exact hpath (FileTree.read_eq_nul_iff.mp h)
  rw [load, s.machine.loadFile_of_error h, LoadError.ofRead_of_ne path he]
  rfl

end Session

namespace Window

variable {v w : Window} {d : Deed} {ts : List Asking}

/-- **One deed keeps what ties a window to its attempts.** -/
theorem follows_comes (h : w.info.Follows ts) (hd : d.NulFree) (hc : w.Comes v d) :
    v.info.Follows (d.noted ts) := by
  cases hc with
  | @load tree path hv =>
    have hpath : '\x00' ∉ path.toList := hd
    rw [hv.info, Deed.noted_load]
    cases hread : tree.read path with
    | ok image =>
      have htold : w.told (w.session.load tree path).session =
          "ROM: " ++ Chip8.imageName (baseName path) := by
        rw [told, w.session.load_of_ok hread]
        rfl
      rw [w.session.info_load_of_ok hread, htold]
      exact ProgramInfo.follows_opened hpath image _
    | error e =>
      rw [w.session.info_load_of_error hread hpath]
      exact h.failed path e true
  | @reload tree path hsome hv =>
    have hpath : '\x00' ∉ path.toList := h.readable path hsome
    rw [hv.info, Deed.noted_reload (h.path.symm.trans hsome)]
    cases hread : tree.read path with
    | ok image =>
      rw [w.session.info_load_of_ok hread]
      exact h.loadedAgain hsome image _
    | error e =>
      rw [w.session.info_load_of_error hread hpath]
      exact h.failed path e false
  | @noReload tree hnone hv =>
    rw [Deed.noted_reload_of_none (h.path.symm.trans hnone), hv.info]
    exact h
  | repaint _ hv => exact hv.info.symm ▸ h
  | lastRepaint _ hv =>
    have hinfo : v.info = w.info := hv.info
    exact hinfo.symm ▸ h
  | other hv => exact hv.info.symm ▸ h

/-! ## Acts -/

/-- The attempts, with those of the acts. -/
def askings (w : Window) (ts : List Asking) : List WindowAct → List Asking
  | [] => ts
  | a :: as => (w.act a).askings ((w.deed a).noted ts) as

theorem nulFree_deed {a : WindowAct} (ha : a.NulFree) : (w.deed a).NulFree := by
  have hchoice {tree : FileTree} {choice : String} (h : '\x00' ∉ choice.toList) :
      (Deed.ofChoice tree choice).NulFree := by
    unfold Deed.ofChoice
    split
    · trivial
    · exact h
  cases a with
  | keyboard tree b name choice =>
    cases b with
    | openDialog => exact hchoice ha
    | _ => trivial
  | load tree path => exact ha
  | task n tree choice =>
    unfold deed
    dsimp only
    split
    next s _ =>
      obtain ⟨delay, t⟩ := s
      cases t with
      | renderPass => trivial
      | openDialog => exact hchoice ha
      | action a => cases a <;> trivial
    next => trivial
  | pad e => trivial
  | frame now => trivial
  | close => trivial

theorem follows_act (h : w.info.Follows ts) {a : WindowAct} (ha : a.NulFree) :
    (w.act a).info.Follows ((w.deed a).noted ts) := by
  by_cases hclose : a = .close
  · rw [hclose]
    have hinfo : w.close.info = w.info := w.kept_close.2.2.1
    exact hinfo.symm ▸ h
  · exact follows_comes h (nulFree_deed ha) (w.comes_act hclose)

theorem follows_acts (h : w.info.Follows ts) {as : List WindowAct} (has : ∀ a ∈ as, a.NulFree) :
    (w.acts as).info.Follows (w.askings ts as) := by
  induction as generalizing w ts with
  | nil => exact h
  | cons a as ih =>
    obtain ⟨ha, hlater⟩ := List.forall_mem_cons.mp has
    exact ih (follows_act h ha) hlater

theorem follows_initial (config : HostConfig) (seed : Nat) (clock : Clock Float) :
    (initial config seed clock).info.Follows [] where
  path := rfl
  readable := nofun
  image := rfl
  label := rfl

/-! ## The truth of the label -/

/-- **The label tells the truth** after these attempts. -/
structure LabelTrue (w : Window) (ts : List Asking) : Prop where
  /-- It names the program just if there is one. -/
  named : w.labels.image = "ROM: " ++ w.imageName ↔ w.session.machine.image.isSome = true
  /-- Without one it tells whether an attempt was made. -/
  unnamed : w.session.machine.image.isSome = false →
    w.labels.image = if ts.isEmpty then "No ROM" else "Load failed"

/-- What the label says, whether it is true or not. -/
theorem label_of_follows (h : w.info.Follows ts) : w.labels.image =
    if marred ts then "Load failed" else if ts.isEmpty then "No ROM"
      else "ROM: " ++ w.imageName :=
  h.label

/-- No other text of the label is the name of a program. -/
theorem unnamed_ne_named (b : Bool) (name : String) :
    (if b then "No ROM" else "Load failed") ≠ "ROM: " ++ name := by
  intro heq
  have hchars := congrArg (·.toList.take 2) heq
  cases b <;> simp at hchars

theorem label_of_no_program (h : w.info.Follows ts)
    (hnone : w.session.machine.image.isSome = false) :
    w.labels.image = if ts.isEmpty then "No ROM" else "Load failed" := by
  have hlabel := label_of_follows h
  cases ts with
  | nil => exact hlabel
  | cons t ts =>
    have hfailed : t.succeeded = false := by
      by_contra ht
      have hsome := h.isSome_iff.mpr ⟨t, rfl, Bool.not_eq_false _ ▸ ht⟩
      exact absurd (hnone.symm.trans hsome) Bool.false_ne_true
    rw [Asking.marred_cons_of_failed hfailed] at hlabel
    exact hlabel

/-- It is true unless a program was loaded anew after another attempt had failed. -/
theorem labelTrue_iff (h : w.info.Follows ts) :
    w.LabelTrue ts ↔ (w.session.machine.image.isSome = true → marred ts = false) := by
  have hlabel := label_of_follows h
  constructor
  · intro htrue hsome
    by_contra hmarred
    rw [Bool.eq_true_of_not_eq_false hmarred, htrue.named.mpr hsome] at hlabel
    exact unnamed_ne_named false _ hlabel.symm
  · intro hclean
    refine ⟨⟨fun hnamed => ?_, fun hsome => ?_⟩, label_of_no_program h⟩
    · by_contra hnone
      have hunnamed := label_of_no_program h (Bool.eq_false_iff.mpr hnone)
      exact unnamed_ne_named _ _ (hunnamed.symm.trans hnamed)
    · obtain ⟨t, ht, -⟩ := h.isSome_iff.mp hsome
      cases ts with
      | nil => cases ht
      | cons t ts =>
        rw [hclean hsome] at hlabel
        exact hlabel

/-- **The label of a window**, whatever happens to it. There is a program just if the newest attempt
succeeded. The label has its name as long as no attempt failed since a program was last opened by
its path; from the first that did it says that a load failed, whatever is loaded anew. So it is true
just if there is no program, or none failed. -/
theorem label_of_askings (config : HostConfig) (seed : Nat) (clock : Clock Float)
    {as : List WindowAct} (has : ∀ a ∈ as, a.NulFree) :
    let w := (initial config seed clock).acts as
    let ts := (initial config seed clock).askings [] as
    (w.session.machine.image.isSome = true ↔ ∃ t, ts.head? = some t ∧ t.succeeded = true) ∧
      w.labels.image = (if marred ts then "Load failed" else if ts.isEmpty then "No ROM"
        else "ROM: " ++ w.imageName) ∧
      (w.LabelTrue ts ↔ (w.session.machine.image.isSome = true → marred ts = false)) := by
  intro w ts
  have hfollows : w.info.Follows ts := follows_acts (follows_initial config seed clock) has
  exact ⟨hfollows.isSome_iff, label_of_follows hfollows, labelTrue_iff hfollows⟩

/-! ## A file that comes back -/

open SessionRun (zeroTree zeroDrawing read_zeroTree)

/-- One program is opened, another cannot be, and the first is loaded again. -/
def openedAgain : List WindowAct :=
  [.load zeroTree "a", .load .empty "b", .keyboard zeroTree .reload "r" ""]

theorem nulFree_openedAgain : ∀ a ∈ openedAgain, a.NulFree := by
  simp [openedAgain, WindowAct.NulFree]

theorem askings_openedAgain (config : HostConfig) (seed : Nat) (clock : Clock Float) :
    (initial config seed clock).askings [] openedAgain =
      [⟨⟨"a", .ok zeroDrawing⟩, false⟩, ⟨⟨"b", .error .notFound⟩, true⟩,
        ⟨⟨"a", .ok zeroDrawing⟩, true⟩] := by
  have hmissing : FileTree.empty.read "b" = .error .notFound := by cbv
  have hlast : lastPath [⟨⟨"b", .error .notFound⟩, true⟩, ⟨⟨"a", .ok zeroDrawing⟩, true⟩] =
      some "a" := rfl
  have hasked : (initial config seed clock).askings [] openedAgain =
      (Deed.reload zeroTree).noted
        ((Deed.load .empty "b").noted ((Deed.load zeroTree "a").noted [])) := rfl
  rw [hasked, Deed.noted_load, Deed.noted_load, hmissing, read_zeroTree, Deed.noted_reload hlast,
    read_zeroTree]

theorem marred_openedAgain (config : HostConfig) (seed : Nat) (clock : Clock Float) :
    marred ((initial config seed clock).askings [] openedAgain) = true := by
  rw [askings_openedAgain]
  rfl

/-- There is a program, and the label says that a load failed. -/
theorem label_of_askings_openedAgain :
    (∀ a ∈ openedAgain, a.NulFree) ∧
      ((initial {} 0 (.ofList 0.0 [])).acts openedAgain).session.machine.image.isSome = true ∧
      ((initial {} 0 (.ofList 0.0 [])).acts openedAgain).labels.image = "Load failed" := by
  obtain ⟨hsome, hlabel, -⟩ := label_of_askings {} 0 (.ofList 0.0 []) nulFree_openedAgain
  rw [askings_openedAgain] at hsome
  rw [marred_openedAgain, askings_openedAgain] at hlabel
  exact ⟨nulFree_openedAgain, hsome.mpr ⟨_, rfl, rfl⟩, hlabel⟩

/-- **The label can be untrue**, after loads alone. -/
theorem label_untrue :
    ¬ ∀ (config : HostConfig) (seed : Nat) (clock : Clock Float) (as : List WindowAct),
      (∀ a ∈ as, a.IsLoad ∧ a.NulFree) →
        ((initial config seed clock).acts as).LabelTrue
          ((initial config seed clock).askings [] as) := by
  intro hall
  have hloads : ∀ a ∈ openedAgain, a.IsLoad := by simp [openedAgain, WindowAct.IsLoad]
  have hfollows := follows_acts (follows_initial {} 0 (.ofList 0.0 [])) nulFree_openedAgain
  have htrue := hall {} 0 (.ofList 0.0 []) openedAgain
    fun a ha => ⟨hloads a ha, nulFree_openedAgain a ha⟩
  have hclean := (labelTrue_iff hfollows).mp htrue
    (hfollows.isSome_iff.mpr ⟨_, congrArg List.head? (askings_openedAgain ..), rfl⟩)
  exact absurd (hclean.symm.trans (marred_openedAgain ..)) Bool.false_ne_true

end Window

end Chip8
