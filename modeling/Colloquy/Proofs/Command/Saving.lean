import Colloquy.Command.Run
import Colloquy.Proofs.Command.Finish
import Colloquy.Proofs.Files
import Colloquy.Proofs.World.Snapshot
import Mathlib.Data.List.Forall2

/-!
# What a play saves

A play that is told a file for the game state saves it there when the conversation is over, and only
then. It can fail before: the file cannot be read, it holds no snapshot, an assignment names no
flag, the conversation cannot be entered, or a line of input is not text (`PlayRequest.Fails`). In
each of these cases all files are as they were, though the game state in memory may have changed
already. Otherwise the play completes (`PlayRequest.Completes`), and the file holds the game state
that the conversation left. The file may lie anywhere in the system. Only the null device would keep
nothing, but it is empty and so holds no snapshot to begin with.
-/

namespace Colloquy

/-! ## Reading a list of things -/

section Reading

variable {α β ε : Type} {f : α → Except ε β} {l : List α}

/-- A list is read if each of its members is. -/
theorem mapM_eq_ok_iff {bs : List β} :
    l.mapM f = .ok bs ↔ List.Forall₂ (fun a b => f a = .ok b) l bs := by
  induction l generalizing bs with
  | nil => cases bs <;> simp [pure, Except.pure]
  | cons a rest ih =>
    rw [List.mapM_cons]
    cases ha : f a with
    | error e => cases bs <;> simp [bind, Except.bind, ha]
    | ok b =>
      cases hrest : rest.mapM f with
      | error e => cases bs <;> simp [bind, Except.bind, ha, ← ih, hrest]
      | ok bs' => cases bs <;> simp [bind, Except.bind, pure, Except.pure, ha, ← ih, hrest]

/-- It is not read if one of its members is not, whatever stands before that one. -/
theorem exists_mapM_eq_error_iff :
    (∃ e, l.mapM f = .error e) ↔ ∃ a ∈ l, ∃ e, f a = .error e := by
  induction l with
  | nil => simp [pure, Except.pure]
  | cons a rest ih =>
    rw [List.mapM_cons]
    cases ha : f a with
    | error e => simp [bind, Except.bind, ha]
    | ok b =>
      cases hrest : rest.mapM f with
      | error e => simpa [bind, Except.bind, ha, hrest] using ih
      | ok bs => simpa [bind, Except.bind, pure, Except.pure, ha, hrest] using ih

end Reading

/-! ## The game state before the conversation -/

/-- Whether a file that cannot be read for a reason is not there. -/
def ReadFault.isAbsence : ReadFault → Bool
  | .missing | .notFolder | .tooLong => true
  | .isFolder | .notText | .refused _ => false

/-- The game state that a file stands for: the one it is a snapshot of, or the empty one if there is
no file. -/
inductive Restores (read : String → Except ReadFault String) (file : String) : World → Prop where
  /-- There is no file. -/
  | absent {fault : ReadFault} (hread : read file = .error fault)
      (habsent : fault.isAbsence = true) : Restores read file .empty
  /-- The file holds a snapshot. -/
  | snapshot {text : String} {w : World} (hread : read file = .ok text)
      (hrestore : World.restore? text = some w) : Restores read file w

/-- The null device stands for no game state. -/
theorem Restores.locate_ne_nullDevice {files : FileTree} {file : String} {w : World}
    (h : Restores files.read file w) : files.locate file ≠ .ok FileTree.nullDevice := by
  intro hnull
  have hread := FileTree.read_nullDevice hnull
  cases h with
  | absent hfault habsent =>
    rw [hfault] at hread
    rcases hread with hread | hread <;> cases hread
    cases habsent
  | snapshot htext hrestore =>
    rw [htext] at hread
    rcases hread with hread | hread <;> cases hread
    have hnone : World.restore? "" = none := by decide +kernel
    rw [hnone] at hrestore
    cases hrestore

/-- What an assignment on the command line asks for. -/
def Assigns (raw : String) (change : Write) : Prop :=
  ∃ name value, FlagValue.readAssignment raw = .ok (name, value) ∧ change = .setFlag name value

namespace PlayRequest

variable {r : PlayRequest} {hero file : String} {read : String → Except ReadFault String}
  {w : World} {c : Conversation} {files : FileTree} {inputs : List Input}

/-- The game state with which a conversation is entered: the one in the file, changed by the
assignments in order and then by the items. -/
def Prepares (r : PlayRequest) (read : String → Except ReadFault String) (file : String)
    (w : World) : Prop :=
  ∃ start flags, Restores read file start ∧ List.Forall₂ Assigns r.assignments flags ∧
    w = (start.applyAll flags).applyAll (r.items.map .addItem)

theorem restore_eq_ok_iff (hfile : r.stateFile = some file) :
    r.restore read = .ok w ↔ Restores read file w := by
  constructor
  · intro h
    cases hread : read file with
    | ok text =>
      cases hrestore : World.restore? text with
      | some start =>
        obtain rfl : start = w := by simpa [restore, hfile, hread, hrestore] using h
        exact .snapshot hread hrestore
      | none => simp [restore, hfile, hread, hrestore] at h
    | error fault =>
      cases fault with
      | missing | notFolder | tooLong =>
        obtain rfl : World.empty = w := by simpa [restore, hfile, hread] using h
        exact .absent hread rfl
      | isFolder | notText | refused => simp [restore, hfile, hread] at h
  · intro h
    cases h with
    | @absent fault hread habsent =>
      cases fault with
      | missing | notFolder | tooLong => simp [restore, hfile, hread]
      | isFolder | notText | refused => cases habsent
    | snapshot hread hrestore => simp [restore, hfile, hread, hrestore]

/-- A file is not restored if it is there and cannot be read, or holds something else than a
snapshot. -/
theorem exists_restore_eq_error_iff (hfile : r.stateFile = some file) :
    (∃ reason, r.restore read = .error reason) ↔
      (∃ fault, read file = .error fault ∧ fault.isAbsence = false) ∨
        ∃ text, read file = .ok text ∧ World.restore? text = none := by
  cases hread : read file with
  | ok text =>
    cases hrestore : World.restore? text <;> simp [restore, hfile, hread, hrestore]
  | error fault => cases fault <;> simp [restore, hfile, hread, ReadFault.isAbsence]

/-- The change that an assignment asks for, or what is wrong with it. -/
def assign (raw : String) : Except String Write :=
  match FlagValue.readAssignment raw with
  | .ok (name, value) => .ok (.setFlag name value)
  | .error e => .error e.message

theorem assign_eq_ok_iff {raw : String} {change : Write} :
    assign raw = .ok change ↔ Assigns raw change := by
  unfold assign Assigns
  rcases FlagValue.readAssignment raw with e | ⟨name, value⟩ <;> simp [eq_comm]

theorem exists_assign_eq_error_iff {raw : String} :
    (∃ reason, assign raw = .error reason) ↔ ∃ e, FlagValue.readAssignment raw = .error e := by
  unfold assign
  rcases FlagValue.readAssignment raw with e | ⟨name, value⟩ <;> simp

theorem preparations_eq :
    r.preparations = (r.assignments.mapM assign).map (· ++ r.items.map .addItem) := by
  have hread : r.preparations =
      (r.assignments.mapM assign >>= fun flags => pure (flags ++ r.items.map .addItem)) := rfl
  rw [hread]
  cases r.assignments.mapM assign <;> rfl

theorem preparations_eq_ok_iff {changes : List Write} :
    r.preparations = .ok changes ↔
      ∃ flags, List.Forall₂ Assigns r.assignments flags ∧
        changes = flags ++ r.items.map .addItem := by
  have hflags : ∀ flags, r.assignments.mapM assign = .ok flags ↔
      List.Forall₂ Assigns r.assignments flags := by
    intro flags
    simp only [mapM_eq_ok_iff, assign_eq_ok_iff]
  simp only [preparations_eq, ← hflags]
  cases r.assignments.mapM assign <;> simp [Except.map, eq_comm]

/-- An assignment that names no flag is enough to prepare nothing, whatever stands before it. -/
theorem exists_preparations_eq_error_iff :
    (∃ reason, r.preparations = .error reason) ↔
      ∃ raw ∈ r.assignments, ∃ e, FlagValue.readAssignment raw = .error e := by
  simp only [← exists_assign_eq_error_iff, ← exists_mapM_eq_error_iff, preparations_eq]
  cases r.assignments.mapM assign <;> simp [Except.map]

/-- **A conversation is entered with the game state in the file**, changed by the assignments in
order and then by the items. -/
theorem prepare_eq_ok_iff (hfile : r.stateFile = some file) :
    (∃ prepared, r.prepare read = .ok prepared ∧ prepared.value = w) ↔ r.Prepares read file w := by
  unfold prepare Prepares
  constructor
  · rintro ⟨prepared, hprepare, rfl⟩
    cases hrestore : r.restore read with
    | error reason => simp [hrestore, bind, Except.bind] at hprepare
    | ok start =>
      cases hchanges : r.preparations with
      | error reason => simp [hrestore, hchanges, bind, Except.bind] at hprepare
      | ok changes =>
        obtain rfl : start.writeAll changes = prepared := by
          simpa [hrestore, hchanges, bind, Except.bind, pure, Except.pure] using hprepare
        obtain ⟨flags, hflags, rfl⟩ := preparations_eq_ok_iff.1 hchanges
        refine ⟨start, flags, (restore_eq_ok_iff hfile).1 hrestore, hflags, ?_⟩
        rw [World.value_writeAll, World.applyAll_append]
  · rintro ⟨start, flags, hrestores, hflags, rfl⟩
    have hrestore := (restore_eq_ok_iff hfile).2 hrestores
    have hchanges := preparations_eq_ok_iff.2 ⟨flags, hflags, rfl⟩
    refine ⟨start.writeAll (flags ++ r.items.map .addItem), ?_, ?_⟩
    · rw [hrestore, hchanges]
      rfl
    · rw [World.value_writeAll, World.applyAll_append]

/-! ## Running a play -/

/-- The ways in which a play fails before it is to save anything. -/
inductive Fails (r : PlayRequest) (hero file : String) (read : String → Except ReadFault String)
    (inputs : List Input) : Prop where
  /-- The file is there and cannot be read. -/
  | unreadable {fault : ReadFault} (hread : read file = .error fault)
      (hthere : fault.isAbsence = false) : Fails r hero file read inputs
  /-- The file does not hold a snapshot. -/
  | invalid {text : String} (hread : read file = .ok text)
      (hrestore : World.restore? text = none) : Fails r hero file read inputs
  /-- An assignment names no flag. -/
  | nameless {raw : String} {e : NamelessAssignment} (hmem : raw ∈ r.assignments)
      (hraw : FlagValue.readAssignment raw = .error e) : Fails r hero file read inputs
  /-- The conversation cannot be entered. -/
  | unentered {w : World} {reason : Refusal} (hw : r.Prepares read file w)
      (hentered : r.entered hero w read = .error reason) : Fails r hero file read inputs
  /-- A line of input is not text. -/
  | notText {w : World} {c : Conversation} {asked : List (Request × Answer)} {last : Loop}
      (hw : r.Prepares read file w) (hentered : r.entered hero w read = .ok c)
      (hruns : Loop.Runs ⟨[], c, inputs⟩ asked (.unreadable .notText) last) :
      Fails r hero file read inputs

/-- Running a play. -/
abbrev execute (r : PlayRequest) (hero : String) (files : FileTree) (inputs : List Input) :
    RunResult × FileTree :=
  ((Invocation.run hero (.play r)).execute files inputs).value

/-- A play without a game state fails and leaves all files as they are. -/
theorem execute_of_unprepared {reason : String} (h : r.prepare files.read = .error reason) :
    r.execute hero files inputs = (.ofOutcome { failure := some reason }, files) := by
  simp [execute, Invocation.execute, Stage.start, Stage.ofCommand, Stage.ofPlay, h, Stage.finish,
    RunResult.ofOutcome]

/-- So does a play whose conversation cannot be entered. -/
theorem execute_of_unentered {prepared : Logged World} {reason : Refusal}
    (h : r.prepare files.read = .ok prepared)
    (hentered : r.entered hero prepared.value files.read = .error reason) :
    r.execute hero files inputs = (.ofOutcome { failure := some reason.message }, files) := by
  have hbegin : (r.begin hero prepared.value files.read).value = .error reason.message := by
    rw [value_begin_eq, hentered]
  simp [execute, Invocation.execute, Stage.start, Stage.ofCommand, Stage.ofPlay, h, hbegin,
    Stage.finish, RunResult.ofOutcome]

/-- The result of a play and the files after it, by the scene it ends in. -/
def settle (r : PlayRequest) (files : FileTree) (s : Scene) : RunResult × FileTree :=
  match r.saving s with
  | none => (.ofScene r s, files)
  | some (file, text) =>
    match files.write? file text with
    | some written => (.ofScene r s, written)
    | none => ((RunResult.ofScene r s).unsaved file, files)

/-- A play that is over at once hears no input. -/
theorem value_finish_ofScene (s : Scene) :
    ((Stage.ofScene r s).finish inputs).value = .ofScene r (s.follow inputs).value := by
  unfold Stage.ofScene
  split
  · rename_i hended
    rw [Scene.value_follow_of_ended hended]
    rfl
  · rfl

/-- **A play is settled by the halt of its loop.** -/
theorem execute_of_runs {prepared : Logged World} {asked : List (Request × Answer)} {why : Halt}
    {last : Loop} (h : r.prepare files.read = .ok prepared)
    (hentered : r.entered hero prepared.value files.read = .ok c)
    (hruns : Loop.Runs ⟨[], c, inputs⟩ asked why last) :
    r.execute hero files inputs =
      r.settle files ⟨last.cues, last.conversation, some why.ending⟩ := by
  have hbegin : (r.begin hero prepared.value files.read).value =
      .ok (Scene.present [] c).value := by
    rw [value_begin_eq, hentered]
  have hscene : ((Scene.present [] c).value.follow inputs).value =
      ⟨last.cues, last.conversation, some why.ending⟩ :=
    hruns.scene_eq (coherent_of_entered hentered)
  have hresult : ((Stage.start files.read (.run hero (.play r))).value.finish inputs).value =
      .ofScene r ⟨last.cues, last.conversation, some why.ending⟩ := by
    rw [← hscene, ← value_finish_ofScene]
    simp [Stage.start, Stage.ofCommand, Stage.ofPlay, h, hbegin]
  have hsaving : (RunResult.ofScene r ⟨last.cues, last.conversation, some why.ending⟩).saving =
      r.saving ⟨last.cues, last.conversation, some why.ending⟩ := rfl
  unfold execute Invocation.execute settle
  simp only [Noted.value_bind, hresult, hsaving]
  rcases r.saving ⟨last.cues, last.conversation, some why.ending⟩ with _ | ⟨file, text⟩
  · rfl
  · cases hwrite : files.write? file text <;> simp [hwrite]

/-- A play with an input that is not text fails and leaves all files as they are. -/
theorem settle_notText (cues : List Cue) (c : Conversation) (files : FileTree) :
    (r.settle files ⟨cues, c, some .notText⟩).1.status = 1 ∧
      (r.settle files ⟨cues, c, some .notText⟩).2 = files := ⟨rfl, rfl⟩

/-- A play that is over succeeds just if the game state is saved. -/
theorem settle_over (hfile : r.stateFile = some file) (cues : List Cue) (c : Conversation)
    (files : FileTree) :
    (∃ written, files.write? file c.world.snapshot = some written ∧
        (r.settle files ⟨cues, c, some .over⟩).1.status = 0 ∧
        (r.settle files ⟨cues, c, some .over⟩).2 = written) ∨
      files.write? file c.world.snapshot = none ∧
        (r.settle files ⟨cues, c, some .over⟩).1.status = 1 ∧
        (r.settle files ⟨cues, c, some .over⟩).2 = files := by
  have hsaving : r.saving ⟨cues, c, some .over⟩ = some (file, c.world.snapshot) := by
    simp [saving, hfile]
  cases hwrite : files.write? file c.world.snapshot with
  | none =>
    have hsettle : r.settle files ⟨cues, c, some .over⟩ =
        ((RunResult.ofScene r ⟨cues, c, some .over⟩).unsaved file, files) := by
      simp [settle, hsaving, hwrite]
    rw [hsettle]
    exact .inr ⟨rfl, rfl, rfl⟩
  | some written =>
    have hsettle : r.settle files ⟨cues, c, some .over⟩ =
        (.ofScene r ⟨cues, c, some .over⟩, written) := by
      simp [settle, hsaving, hwrite]
    rw [hsettle]
    exact .inl ⟨written, rfl, rfl, rfl⟩

/-- Nothing is prepared if the file is not restored or an assignment names no flag. -/
theorem exists_prepare_eq_error_iff (hfile : r.stateFile = some file) :
    (∃ reason, r.prepare read = .error reason) ↔
      ((∃ fault, read file = .error fault ∧ fault.isAbsence = false) ∨
        ∃ text, read file = .ok text ∧ World.restore? text = none) ∨
      ∃ raw ∈ r.assignments, ∃ e, FlagValue.readAssignment raw = .error e := by
  rw [← exists_restore_eq_error_iff hfile, ← exists_preparations_eq_error_iff]
  cases hrestore : r.restore read with
  | error reason => simp [prepare, hrestore, bind, Except.bind]
  | ok start =>
    cases hchanges : r.preparations <;>
      simp [prepare, hrestore, hchanges, bind, Except.bind, pure, Except.pure]

/-- **A play that fails before it is to save anything says so**, and leaves all files as they
are. -/
theorem execute_of_fails (hfile : r.stateFile = some file)
    (h : r.Fails hero file files.read inputs) :
    (r.execute hero files inputs).1.status = 1 ∧ (r.execute hero files inputs).2 = files := by
  have hunprepared : (∃ reason, r.prepare files.read = .error reason) →
      (r.execute hero files inputs).1.status = 1 ∧ (r.execute hero files inputs).2 = files := by
    rintro ⟨reason, hprepare⟩
    rw [execute_of_unprepared hprepare]
    exact ⟨rfl, rfl⟩
  rw [exists_prepare_eq_error_iff hfile] at hunprepared
  cases h with
  | unreadable hread hthere => exact hunprepared (.inl (.inl ⟨_, hread, hthere⟩))
  | invalid hread hrestore => exact hunprepared (.inl (.inr ⟨_, hread, hrestore⟩))
  | nameless hmem hraw => exact hunprepared (.inr ⟨_, hmem, _, hraw⟩)
  | unentered hw hentered =>
    obtain ⟨prepared, hprepare, rfl⟩ := (prepare_eq_ok_iff hfile).2 hw
    rw [execute_of_unentered hprepare hentered]
    exact ⟨rfl, rfl⟩
  | notText hw hentered hruns =>
    obtain ⟨prepared, hprepare, rfl⟩ := (prepare_eq_ok_iff hfile).2 hw
    rw [execute_of_runs hprepare hentered hruns]
    exact settle_notText _ _ _

/-- A play that does not fail before it is to save anything: it is prepared, entered, and gone
through to the end. -/
structure Completes (r : PlayRequest) (hero file : String)
    (read : String → Except ReadFault String) (inputs : List Input) (w : World) (c : Conversation)
    (asked : List (Request × Answer)) (last : Loop) : Prop where
  prepares : r.Prepares read file w
  entered : r.entered hero w read = .ok c
  runs : Loop.Runs ⟨[], c, inputs⟩ asked .idle last

/-- **A play fails or completes.** -/
theorem fails_or_completes (hfile : r.stateFile = some file) (hero : String)
    (read : String → Except ReadFault String) (inputs : List Input) :
    r.Fails hero file read inputs ∨
      ∃ w c asked last, r.Completes hero file read inputs w c asked last := by
  cases hprepare : r.prepare read with
  | error reason =>
    rcases (exists_prepare_eq_error_iff hfile).1 ⟨reason, hprepare⟩ with
      (⟨fault, hread, hthere⟩ | ⟨text, hread, hrestore⟩) | ⟨raw, hmem, e, hraw⟩
    · exact .inl (.unreadable hread hthere)
    · exact .inl (.invalid hread hrestore)
    · exact .inl (.nameless hmem hraw)
  | ok prepared =>
    have hw : r.Prepares read file prepared.value :=
      (prepare_eq_ok_iff hfile).1 ⟨prepared, hprepare, rfl⟩
    cases hentered : r.entered hero prepared.value read with
    | error reason => exact .inl (.unentered hw hentered)
    | ok c =>
      have hc : c.Coherent := coherent_of_entered hentered
      obtain ⟨asked, why, last, hruns⟩ := Loop.exists_runs ⟨[], c, inputs⟩ hc
      rcases hruns.halts hc with ⟨rfl, -⟩ | ⟨rfl, -⟩
      · exact .inr ⟨_, c, asked, last, hw, hentered, hruns⟩
      · exact .inl (.notText hw hentered hruns)

/-- A play that completes is settled by the conversation that it leaves. -/
theorem Completes.execute_eq {asked : List (Request × Answer)} {last : Loop}
    (h : r.Completes hero file files.read inputs w c asked last) (hfile : r.stateFile = some file) :
    r.execute hero files inputs =
      r.settle files ⟨last.cues, last.conversation, some .over⟩ := by
  obtain ⟨prepared, hprepare, rfl⟩ := (prepare_eq_ok_iff hfile).2 h.prepares
  exact execute_of_runs hprepare h.entered h.runs

/-- **The world that a play leaves** is the one with which its conversation was entered, with the
picks enacted in order. -/
theorem Completes.world_eq {asked : List (Request × Answer)} {last : Loop}
    (h : r.Completes hero file read inputs w c asked last) :
    last.conversation.world = Pick.enactAll w (c.picks (asked.map Prod.fst)) := by
  have hc : c.Coherent := coherent_of_entered h.entered
  have hleads := h.runs.leads hc
  rw [← hleads.after_eq, ← world_of_entered h.entered]
  exact Conversation.world_after hc hleads.inside

/-- **A play that completes succeeds just if it saves** the game state that its picks make. -/
theorem Completes.execute_cases {asked : List (Request × Answer)} {last : Loop}
    (h : r.Completes hero file files.read inputs w c asked last) (hfile : r.stateFile = some file) :
    let run := r.execute hero files inputs
    let final := Pick.enactAll w (c.picks (asked.map Prod.fst))
    run.1.status = 0 ∧ files.write? file final.snapshot = some run.2 ∨
      run.1.status = 1 ∧ files.write? file final.snapshot = none ∧ run.2 = files := by
  intro run final
  have hrun : run = r.settle files ⟨last.cues, last.conversation, some .over⟩ :=
    h.execute_eq hfile
  have hfinal : last.conversation.world = final := h.world_eq
  rw [hrun, ← hfinal]
  rcases settle_over (r := r) hfile last.cues last.conversation files with
    ⟨written, hwrite, hstatus, hleft⟩ | ⟨hwrite, hstatus, hleft⟩
  · exact .inl ⟨hstatus, hwrite.trans (congrArg some hleft.symm)⟩
  · exact .inr ⟨hstatus, hwrite, hleft⟩

/-- The picks of a play that completes are as many as the selections that were accepted. -/
theorem Completes.length_picks {asked : List (Request × Answer)} {last : Loop}
    (h : r.Completes hero file read inputs w c asked last) :
    (c.picks (asked.map Prod.fst)).length =
      (asked.map Prod.snd).count (.selected .accepted) := by
  have hc : c.Coherent := coherent_of_entered h.entered
  rw [Conversation.length_picks hc, (h.runs.leads hc).answered]

/-- **A play saves all or nothing.** For a play that is told a file for the game state, whatever the
script, the arguments, the files and the inputs. If it fails, all files are as they were. If it
succeeds, the file holds the snapshot of the game state that the play was prepared with, changed by
the picks in order, one for each selection that was accepted, and reading the file and restoring the
snapshot gives that very game state. And if the file can be written to, it fails just if the file
cannot be restored, an assignment names no flag, the conversation cannot be entered or a line of
input is not text. -/
theorem saves_all_or_nothing (hfile : r.stateFile = some file) (hero : String) (files : FileTree)
    (inputs : List Input) :
    let run := r.execute hero files inputs
    (run.1.status ≠ 0 → run.2 = files) ∧
    (run.1.status = 0 → ∃ w c asked last,
      r.Completes hero file files.read inputs w c asked last ∧
      let picks := c.picks (asked.map Prod.fst)
      let final := picks.foldl (fun w p => p.enact w) w
      picks.length = (asked.map Prod.snd).count (.selected .accepted) ∧
      files.write? file final.snapshot = some run.2 ∧ run.2.read file = .ok final.snapshot ∧
      World.restore? final.snapshot = some final) ∧
    ((∀ text, (files.write? file text).isSome) →
      (run.1.status ≠ 0 ↔ r.Fails hero file files.read inputs)) := by
  intro run
  have hspoils : r.Fails hero file files.read inputs → run.1.status = 1 ∧ run.2 = files :=
    execute_of_fails hfile
  rcases fails_or_completes hfile hero files.read inputs with hfails | ⟨w, c, asked, last, h⟩
  · obtain ⟨hstatus, hleft⟩ := hspoils hfails
    have hfailed : run.1.status ≠ 0 := by omega
    exact ⟨fun _ => hleft, fun hzero => absurd hzero hfailed, fun _ => iff_of_true hfailed hfails⟩
  · rcases h.execute_cases hfile with ⟨hstatus, hwrite⟩ | ⟨hstatus, hwrite, hleft⟩
    · have hzero : run.1.status = 0 := hstatus
      have hsucceeds : ¬ r.Fails hero file files.read inputs := by
        intro hfails
        have hone := (hspoils hfails).1
        omega
      obtain ⟨start, -, hrestores, -⟩ := h.prepares
      have hread := FileTree.read_of_write? hwrite hrestores.locate_ne_nullDevice
      refine ⟨fun hfailed => absurd hzero hfailed, fun _ => ?_, fun _ => ?_⟩
      · refine ⟨w, c, asked, last, h, h.length_picks, hwrite, hread, ?_⟩
        rw [World.restore?, World.snapshot, Json.parse?_pretty, Option.bind_some,
          World.ofJson?_toJson]
      · exact iff_of_false (fun hfailed => hfailed hzero) hsucceeds
    · have hone : run.1.status = 1 := hstatus
      refine ⟨fun _ => hleft, fun hzero => ?_, fun hwritable => ?_⟩
      · omega
      · have hsome := hwritable (Pick.enactAll w (c.picks (asked.map Prod.fst))).snapshot
        rw [hwrite] at hsome
        cases hsome

/-- A script with a choice that takes an item away. -/
def pantryScript : String := "=== start ===\n- Take\n# set: story.fed\n# remove: cake\n> END\n"

/-- Files among which there is no snapshot, and an empty folder for one. -/
def pantry : FileTree :=
  { FileTree.ofList [("dialogue/zyx.txt", pantryScript.toUTF8)] with folders := [["var", "saves"]] }

/-- A play that saves, with absolute paths. -/
def raid : PlayRequest :=
  ⟨"zyx", "/tmp/work/dialogue", "txt", some "/var/saves/state.json", ["hungry", "hour = 3"],
    ["cake", "key"], none⟩

/-- The same play with an assignment that names no flag behind one that does, and with its file above
the working directory. -/
def spoilt : PlayRequest :=
  { raid with stateFile := some "../state.json", assignments := ["hungry", "=3"] }

theorem saves_all_or_nothing_raid :
    raid.stateFile = some "/var/saves/state.json" ∧
      (raid.execute "nate" pantry [.line "1\n"]).1.status = 0 ∧
      (∃ final, (raid.execute "nate" pantry [.line "1\n"]).2.read "/var/saves/state.json" =
        .ok (World.snapshot final) ∧ World.restore? (World.snapshot final) = some final) ∧
      spoilt.stateFile = some "../state.json" ∧
      (∀ text, (pantry.write? "../state.json" text).isSome) ∧
      (spoilt.execute "nate" pantry [.line "1\n"]).1.status ≠ 0 ∧
      (spoilt.execute "nate" pantry [.line "1\n"]).2 = pantry := by
  have hsaved : (raid.execute "nate" pantry [.line "1\n"]).1.status = 0 := by decide +kernel
  have hwritable : ∀ text, (pantry.write? "../state.json" text).isSome := by
    intro text
    have hlocate : pantry.locate "../state.json" = .ok ["tmp", "state.json"] := by decide +kernel
    exact FileTree.isSome_write?_iff.2 ⟨_, hlocate, by decide +kernel⟩
  obtain ⟨-, hsaves, -⟩ := saves_all_or_nothing (r := raid) rfl "nate" pantry [.line "1\n"]
  obtain ⟨w, c, asked, last, -, -, -, hread, hrestore⟩ := hsaves hsaved
  obtain ⟨hkeeps, -, hfails⟩ := saves_all_or_nothing (r := spoilt) rfl "nate" pantry [.line "1\n"]
  have hnameless : FlagValue.readAssignment "=3" = .error ⟨"=3"⟩ := by rfl
  have hfailed := (hfails hwritable).2 (.nameless (by decide) hnameless)
  exact ⟨rfl, hsaved, ⟨_, hread, hrestore⟩, rfl, hwritable, hfailed, hkeeps hfailed⟩

end PlayRequest

end Colloquy
