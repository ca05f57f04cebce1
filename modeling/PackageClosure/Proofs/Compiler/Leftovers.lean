import PackageClosure.Proofs.Compiler.Clearing
import PackageClosure.Proofs.Path.Components

set_option autoImplicit false

namespace PackageClosure

namespace Disk

def Holds (disk : Disk) (current : Held) (path : Path) (text : String) : Prop :=
  ∃ bytes, disk.read current path = .ok bytes ∧ Text.decodeUtf8 bytes = .ok text

theorem beside_of_endings (before : String) (paths : List Path)
    (ends : ∀ path ∈ paths, ∃ ending, path = ⟨before ++ ending⟩ ∧ IsEnding ending.toList) :
    ∃ steps, Beside steps paths := by
  obtain ⟨steps, named⟩ := lookupSteps_append_ending before.toList
  refine ⟨steps, fun path member => ?_⟩
  obtain ⟨ending, rfl, isEnding⟩ := ends path member
  obtain ⟨name, spelled⟩ := named _ isEnding
  have whole : before ++ ending = String.ofList (before.toList ++ ending.toList) := by simp
  exact ⟨name, by rw [whole, spelled]⟩

end Disk

namespace Compiler

def buildArtifacts (package : Path) : List Path :=
  [artifact package blobName, artifact package hashName, artifact package errorsName]

def disassemblyArtifacts (file : Path) : List Path := [listingOf file, errorsOf file]

theorem beside_buildArtifacts (package : Path) :
    ∃ steps, Disk.Beside steps (buildArtifacts package) := by
  obtain ⟨before, joined⟩ := (Access.outputDirectory package).join_relative
  refine Disk.beside_of_endings before _ fun path member => ?_
  simp only [buildArtifacts, artifact, List.mem_cons, List.not_mem_nil, or_false] at member
  rcases member with rfl | rfl | rfl
  · exact ⟨blobName, joined ⟨blobName⟩ (by decide), by decide⟩
  · exact ⟨hashName, joined ⟨hashName⟩ (by decide), by decide⟩
  · exact ⟨errorsName, joined ⟨errorsName⟩ (by decide), by decide⟩

theorem beside_disassemblyArtifacts (file : Path) :
    ∃ steps, Disk.Beside steps (disassemblyArtifacts file) := by
  refine Disk.beside_of_endings file.text _ fun path member => ?_
  simp only [disassemblyArtifacts, List.mem_cons, List.not_mem_nil, or_false] at member
  rcases member with rfl | rfl
  · exact ⟨".d", rfl, by decide⟩
  · exact ⟨".e", rfl, by decide⟩

section

variable {α : Type}

def attempt (current : Held) (executable : Path) (backend : Backend) (artifacts : List Path)
    (read : ExitStatus → Run α) : Run α := do
  clearAll current artifacts
  let status ← runToEnd executable backend
  read status

-- A backend has been started on a disk from which all artifacts had been cleared away, and this is
-- what it has left behind.
def Left (current : Held) (backend : Backend) (artifacts : List Path) (before after : Disk) :
    Prop :=
  ∃ fresh status, (clearAll current artifacts).run before = (.ok (), fresh) ∧
    (∀ path ∈ artifacts, fresh.Lacks current path) ∧ backend fresh = .ok (after, status)

variable {current : Held} {executable : Path} {backend : Backend} {artifacts : List Path}
variable {read : ExitStatus → Run α}

theorem run_attempt (disk : Disk) :
    (attempt current executable backend artifacts read).run disk =
      match (clearAll current artifacts).run disk with
      | (.error error, after) => (.error error, after)
      | (.ok _, fresh) =>
          match backend fresh with
          | .ok (after, status) => (read status).run after
          | .error cause => (.error (.notStarted executable cause), fresh) := by
  rw [attempt, run_bind]
  rcases (clearAll current artifacts).run disk with ⟨error | done, fresh⟩
  · rfl
  · dsimp only
    rw [run_bind, run_runToEnd]
    rcases backend fresh with cause | ⟨after, status⟩ <;> rfl

theorem attempt_alike {left right : Disk} {steps : List Step}
    (beside : Disk.Beside steps artifacts)
    (differ : Disk.DifferAtMost current artifacts left right)
    (uncarried : left.Uncarried current artifacts) :
    ((attempt current executable backend artifacts read).run left).1 =
      ((attempt current executable backend artifacts read).run right).1 := by
  rw [run_attempt, run_attempt]
  rcases clearAll_alike beside differ uncarried with ⟨error, leftEnd, rightEnd⟩ | same
  · rcases leftRun : (clearAll current artifacts).run left with ⟨leftResult, leftAfter⟩
    rcases rightRun : (clearAll current artifacts).run right with ⟨rightResult, rightAfter⟩
    rw [leftRun] at leftEnd
    rw [rightRun] at rightEnd
    subst leftEnd rightEnd
    rfl
  · rw [same]

theorem left_of_attempt {before after : Disk} {steps : List Step} {result : α}
    (beside : Disk.Beside steps artifacts)
    (ended : (attempt current executable backend artifacts read).run before = (.ok result, after)) :
    ∃ between status, Left current backend artifacts before between ∧
      (read status).run between = (.ok result, after) := by
  obtain ⟨_, fresh, cleared, rest⟩ := of_run_bind ended
  obtain ⟨status, between, started, ended⟩ := of_run_bind rest
  have lacks := (lacks_of_clearAll beside cleared).1
  rw [run_runToEnd] at started
  rcases backendRun : backend fresh with cause | ⟨after, status⟩
  · rw [backendRun] at started
    cases started
  · rw [backendRun] at started
    cases started
    exact ⟨_, _, ⟨fresh, _, cleared, lacks, backendRun⟩, ended⟩

theorem attempt_of_left {before after : Disk}
    (left : Left current backend artifacts before after) :
    ∃ status, (attempt current executable backend artifacts read).run before =
      (read status).run after := by
  obtain ⟨fresh, status, cleared, _, started⟩ := left
  refine ⟨status, ?_⟩
  rw [run_attempt, cleared]
  dsimp only
  rw [started]

end

theorem run_hasFile (current : Held) (path : Path) (disk : Disk) :
    (hasFile current path).run disk = (.ok (disk.isFile current path), disk) := rfl

theorem of_run_readText {current : Held} {failed : TextError → Error} {path : Path} {text : String}
    {before after : Disk}
    (ended : (readText current failed path).run before = (.ok text, after)) :
    after = before ∧ before.Holds current path text := by
  unfold readText at ended
  obtain ⟨disk, between, got, rest⟩ := of_run_bind ended
  rw [run_get] at got
  cases got
  cases content : before.read current path with
  | error cause =>
      rw [content] at rest
      cases rest
  | ok bytes =>
      rw [content] at rest
      dsimp only at rest
      cases decoded : Text.decodeUtf8 bytes with
      | error error =>
          rw [decoded] at rest
          cases rest
      | ok other =>
          rw [decoded] at rest
          dsimp only at rest
          rw [run_pure] at rest
          cases rest
          exact ⟨rfl, bytes, content, decoded⟩

theorem of_run_readText_bind {α : Type} {current : Held} {failed : TextError → Error} {path : Path}
    {shape : String → α} {result : α} {before after : Disk}
    (ended : (readText current failed path >>= fun text => pure (shape text)).run before =
      (.ok result, after)) :
    after = before ∧ ∃ text, before.Holds current path text ∧ result = shape text := by
  obtain ⟨text, between, read, done⟩ := of_run_bind ended
  obtain ⟨rfl, holds⟩ := of_run_readText read
  rw [run_pure] at done
  cases done
  exact ⟨rfl, text, holds, rfl⟩

def readEither {α : Type} (current : Held) (shown text errors : Path)
    (noText noErrors : TextError → Error) (nothing : Error) (success failure : String → α) :
    Run α := do
  if ← hasFile current shown then
    let content ← readText current noText text
    return success content
  else if ← hasFile current errors then
    return failure (← readText current noErrors errors)
  else throw nothing

theorem of_run_readEither {α : Type} {current : Held} {shown text errors : Path}
    {noText noErrors : TextError → Error} {nothing : Error} {success failure : String → α}
    {result : α} {before after : Disk}
    (ended : (readEither current shown text errors noText noErrors nothing success failure).run
      before = (.ok result, after)) :
    after = before ∧
      ((before.isFile current shown = true ∧
          ∃ content, before.Holds current text content ∧ result = success content) ∨
        (before.isFile current shown = false ∧ before.isFile current errors = true ∧
          ∃ content, before.Holds current errors content ∧ result = failure content)) := by
  unfold readEither at ended
  obtain ⟨isShown, _, looked, rest⟩ := of_run_bind ended
  rw [run_hasFile] at looked
  obtain ⟨there, rfl⟩ := Prod.mk.inj looked
  cases isShown with
  | true =>
      rw [if_pos rfl] at rest
      obtain ⟨rfl, content, holds, rfl⟩ := of_run_readText_bind rest
      exact ⟨rfl, Or.inl ⟨Except.ok.inj there, content, holds, rfl⟩⟩
  | false =>
      rw [if_neg Bool.false_ne_true] at rest
      obtain ⟨hasErrors, _, looked, rest⟩ := of_run_bind rest
      rw [run_hasFile] at looked
      obtain ⟨errorsThere, rfl⟩ := Prod.mk.inj looked
      cases hasErrors with
      | true =>
          rw [if_pos rfl] at rest
          obtain ⟨rfl, content, holds, rfl⟩ := of_run_readText_bind rest
          exact ⟨rfl, Or.inr
            ⟨Except.ok.inj there, Except.ok.inj errorsThere, content, holds, rfl⟩⟩
      | false => cases rest

theorem run_readEither_nothing {α : Type} {current : Held} {shown text errors : Path}
    {noText noErrors : TextError → Error} {nothing : Error} {success failure : String → α}
    {disk : Disk} (absent : disk.isFile current shown = false)
    (silent : disk.isFile current errors = false) :
    (readEither current shown text errors noText noErrors nothing success failure).run disk =
      (.error nothing, disk) := by
  unfold readEither
  rw [run_bind, run_hasFile, absent]
  dsimp only
  rw [if_neg Bool.false_ne_true, run_bind, run_hasFile, silent]
  rfl

def BuildResult.Shows (current : Held) (package : Path) (disk : Disk) : BuildResult → Prop
  | .success blob hash =>
      blob = artifact package blobName ∧ disk.isFile current blob = true ∧
        ∃ text, disk.Holds current (artifact package hashName) text ∧ hash = Text.trim text
  | .failure message =>
      disk.isFile current (artifact package blobName) = false ∧
        disk.isFile current (artifact package errorsName) = true ∧
        disk.Holds current (artifact package errorsName) message

def DisassemblyResult.Shows (current : Held) (file : Path) (disk : Disk) :
    DisassemblyResult → Prop
  | .success listing =>
      disk.isFile current (listingOf file) = true ∧
        disk.Holds current (listingOf file) listing
  | .failure message =>
      disk.isFile current (listingOf file) = false ∧
        disk.isFile current (errorsOf file) = true ∧
        disk.Holds current (errorsOf file) message

variable {current : Held} {status : ExitStatus} {before after : Disk}

theorem readBuild_eq (package : Path) :
    readBuild current package status =
      readEither current (artifact package blobName) (artifact package hashName)
        (artifact package errorsName) (.noHash (artifact package blobName))
        (.unreadable (artifact package errorsName)) (.nothingBuilt status blobName errorsName)
        (fun text => .success (artifact package blobName) (Text.trim text)) .failure := rfl

theorem readDisassembly_eq (file : Path) :
    readDisassembly current file status =
      readEither current (listingOf file) (listingOf file) (errorsOf file)
        (.unreadable (listingOf file)) (.unreadable (errorsOf file))
        (.nothingListed status (listingOf file) (errorsOf file)) .success .failure := rfl

theorem shows_of_readBuild {package : Path} {result : BuildResult}
    (ended : (readBuild current package status).run before = (.ok result, after)) :
    after = before ∧ result.Shows current package before := by
  rw [readBuild_eq] at ended
  obtain ⟨rfl, ⟨there, text, holds, rfl⟩ | ⟨absent, there, text, holds, rfl⟩⟩ :=
    of_run_readEither ended
  · exact ⟨rfl, rfl, there, text, holds, rfl⟩
  · exact ⟨rfl, absent, there, holds⟩

theorem shows_of_readDisassembly {file : Path} {result : DisassemblyResult}
    (ended : (readDisassembly current file status).run before = (.ok result, after)) :
    after = before ∧ result.Shows current file before := by
  rw [readDisassembly_eq] at ended
  obtain ⟨rfl, ⟨there, text, holds, rfl⟩ | ⟨absent, there, text, holds, rfl⟩⟩ :=
    of_run_readEither ended
  · exact ⟨rfl, there, holds⟩
  · exact ⟨rfl, absent, there, holds⟩

theorem run_build (executable : Path) (backend : Backend) (access : Access)
    (request : BuildRequest) (disk : Disk) :
    (build current executable backend access request).run disk =
      match access.check request.sources with
      | .error error => (.error (.inaccessible error), disk)
      | .ok () =>
          (attempt current executable backend (buildArtifacts access.package)
            (readBuild current access.package)).run disk := by
  unfold build
  cases access.check request.sources with
  | error error => exact run_bind (throw (.inaccessible error)) _ disk
  | ok => simp only [attempt, buildArtifacts, clearAll, bind_assoc, pure_bind]

theorem run_disassemble (executable : Path) (backend : Backend) (file : Path) (disk : Disk) :
    (disassemble current executable backend file).run disk =
      if disk.isFile current file then
        (attempt current executable backend (disassemblyArtifacts file)
          (readDisassembly current file)).run disk
      else (.error (.noBytecode file), disk) := by
  unfold disassemble
  rw [run_bind, run_hasFile]
  cases disk.isFile current file with
  | true =>
      rw [if_pos rfl]
      simp only [attempt, disassemblyArtifacts, clearAll, bind_assoc, pure_bind, Bool.not_true,
        Bool.false_eq_true, if_false]
  | false =>
      simp only [Bool.not_false, if_true, Bool.false_eq_true, if_false, run_bind, run_throw]

def emptyFile : Disk.File := ⟨[], Disk.fileMode, 0, 0⟩

def bytecodeOnly : Disk := (Disk.empty 0).put [⟨"m", by decide⟩] (.file emptyFile)

def withListing : Disk := bytecodeOnly.put [⟨"m.d", by decide⟩] (.file emptyFile)

theorem lookupSteps_listing :
    (listingOf ⟨"m"⟩).lookupSteps = [] ++ [.name ⟨"m.d", by decide⟩] := by
  decide

theorem lookupSteps_errors :
    (errorsOf ⟨"m"⟩).lookupSteps = [] ++ [.name ⟨"m.e", by decide⟩] := by
  decide

theorem withListing_differs :
    Disk.DifferAtMost .root (disassemblyArtifacts ⟨"m"⟩) withListing bytecodeOnly where
  moves := rfl
  time := rfl
  nodes place := by
    rw [withListing, Disk.node?_put]
    split
    · rename_i same
      subst same
      refine Or.inr ⟨⟨listingOf ⟨"m"⟩, List.mem_cons_self, ?_⟩, rfl, by decide⟩
      exact (Disk.reaches_iff lookupSteps_listing withListing _).mpr
        ⟨by decide, by decide, [], withListing.leads_nil _ _, rfl, Or.inr (by decide)⟩
    · exact Or.inl rfl

theorem withListing_uncarried :
    withListing.Uncarried .root (disassemblyArtifacts ⟨"m"⟩) := by
  intro path member place target reaches link
  simp only [disassemblyArtifacts, List.mem_cons, List.not_mem_nil, or_false] at member
  rcases member with rfl | rfl
  · obtain rfl := Disk.place_of_reaches lookupSteps_listing withListing [] place
      (withListing.leads_nil _ _) reaches
    cases link
  · obtain rfl := Disk.place_of_reaches lookupSteps_errors withListing [] place
      (withListing.leads_nil _ _) reaches
    cases link

theorem isFile_bytecode (disk : Disk) (start : disk.whereIs .root = [])
    (there : disk.node? [⟨"m", by decide⟩] = some (.file emptyFile)) :
    disk.isFile .root (⟨"m"⟩ : Path) = true := by
  rw [Disk.isFile, disk.stat_file .root _ [] ⟨"m", by decide⟩ [] emptyFile (by decide) (by decide)
    (by decide) (start ▸ disk.leads_nil _ _) there]

namespace Circular

def app : Name := ⟨"a", by decide⟩

def target : Name := ⟨"target", by decide⟩

def sui : Name := ⟨"sui", by decide⟩

def release : Name := ⟨"release", by decide⟩

def store : Name := ⟨"q", by decide⟩

def blob : Name := ⟨"package.blob", by decide⟩

def hash : Name := ⟨"hash.txt", by decide⟩

def directory : Disk.Node := .directory Disk.directoryMode

def around : Disk :=
  ((((Disk.empty 0).put [app] directory).put [app, target] directory).put [app, target, sui]
    directory).put [store] directory

def bare : Disk :=
  (around.put [app, target, sui, release] (.link ⟨"/q/package.blob"⟩)).put [store, blob]
    (.link ⟨"."⟩)

def disk : Option Disk.File → Disk
  | none => bare
  | some file => bare.put [store, hash] (.file file)

def leftover : Disk.File := ⟨[0x6F, 0x6C, 0x64], Disk.fileMode, 0, 0⟩

def rebuilt (disk : Disk) : Disk :=
  (disk.put [app, target, sui, release] (.link ⟨"/q"⟩)).put [store, blob] (.file leftover)

def compiler : Backend := fun disk => .ok (rebuilt disk, .exited 0)

def package : Path := ⟨"/a"⟩

def steps : List Step := [.root, .name app, .name target, .name sui, .name release]

theorem lookupSteps_blob : (artifact package blobName).lookupSteps = steps ++ [.name blob] := by
  decide

theorem lookupSteps_hash : (artifact package hashName).lookupSteps = steps ++ [.name hash] := by
  decide

theorem lookupSteps_errors :
    (artifact package errorsName).lookupSteps = steps ++ [.name ⟨"error.txt", by decide⟩] := by
  decide

theorem walk_steps (disk : Disk) (links : Nat) (goal : Path)
    (nodes : disk.node? [app] = some directory ∧ disk.node? [app, target] = some directory ∧
      disk.node? [app, target, sui] = some directory)
    (link : disk.node? [app, target, sui, release] = some (.link goal)) :
    disk.walk (links + 1) true [] (steps ++ [.current]) =
      disk.walk links true [app, target, sui] (goal.lookupSteps ++ [.current]) := by
  have toTarget := disk.walk_directory (links + 1) [] app
    [.name target, .name sui, .name release, .current] _ (by decide) nodes.1
  have toSui := disk.walk_directory (links + 1) [app] target
    [.name sui, .name release, .current] _ (by decide) nodes.2.1
  have toRelease := disk.walk_directory (links + 1) [app, target] sui
    [.name release, .current] _ (by decide) nodes.2.2
  have along := disk.walk_link links [app, target, sui] release [.current] _ (by decide) link
  change disk.walk (links + 1) true [] (.root :: _) = _
  rw [Disk.walk]
  exact toTarget.trans (toSui.trans (toRelease.trans along))

section

variable (hash? : Option Disk.File)

def cleared : Disk := (disk hash?).erase [store, blob]

theorem leads_disk : (disk hash?).Leads Disk.linkLimit [] steps [store] := by
  have inside := (disk hash?).walk_directory 39 [] store [.name blob, .current] _ (by decide)
    (show _ = some directory by cases hash? <;> rfl)
  have around := (disk hash?).walk_link 38 [store] blob [.current] ⟨"."⟩ (by decide)
    (by cases hash? <;> rfl)
  have entered := walk_steps (disk hash?) 39 ⟨"/q/package.blob"⟩
    (by cases hash? <;> exact ⟨rfl, rfl, rfl⟩) (by cases hash? <;> rfl)
  refine ⟨some directory, entered.trans ?_⟩
  change (disk hash?).walk 39 true _ (.root :: _) = _
  rw [Disk.walk]
  refine inside.trans (around.trans ?_)
  change (disk hash?).walk 38 true [store] [.current, .current] = _
  rw [Disk.walk, Disk.walk, Disk.walk]
  cases hash? <;> rfl

theorem find_cleared {path : Path} {name : Name} (spelled : path.lookupSteps = steps ++ [.name name])
    (accepted : Disk.refusal? path = none) :
    (cleared hash?).find .root false path = .error (.system .notFound) := by
  have inside := (cleared hash?).walk_directory 39 [] store [.name blob, .current] _ (by decide)
    (show _ = some directory by cases hash? <;> rfl)
  have missing : (cleared hash?).node? ([] ++ [store] ++ [blob]) = none := by cases hash? <;> rfl
  have entered := walk_steps (cleared hash?) 39 ⟨"/q/package.blob"⟩
    (by cases hash? <;> exact ⟨rfl, rfl, rfl⟩) (by cases hash? <;> rfl)
  have lost : (cleared hash?).walk Disk.linkLimit true ((cleared hash?).whereIs .root)
      (steps ++ [.current]) = .error .notFound := by
    refine Eq.trans ?_ (entered.trans ?_)
    · cases hash? <;> rfl
    · change (cleared hash?).walk 39 true _ (.root :: _) = _
      rw [Disk.walk]
      refine inside.trans ?_
      rw [Disk.walk_through _ _ _ _ _ _ rfl, if_neg (by decide), missing]
  rw [Disk.find_of_refusal?_none _ _ _ _ accepted, spelled, Disk.walk_concat_name, lost]
  rfl

theorem run_cleared {path : Path} {name : Name} (spelled : path.lookupSteps = steps ++ [.name name])
    (accepted : Disk.refusal? path = none) :
    (clear .root path).run (cleared hash?) = (.ok (), cleared hash?) := by
  rw [run_clear, find_cleared hash? spelled accepted]

theorem leads_rebuilt : (rebuilt (cleared hash?)).Leads Disk.linkLimit [] steps [store] := by
  have inside := (rebuilt (cleared hash?)).walk_directory 39 [] store [.current] _ (by decide)
    (show _ = some directory by cases hash? <;> rfl)
  have entered := walk_steps (rebuilt (cleared hash?)) 39 ⟨"/q"⟩
    (by cases hash? <;> exact ⟨rfl, rfl, rfl⟩) (by cases hash? <;> rfl)
  refine ⟨some directory, entered.trans ?_⟩
  change (rebuilt (cleared hash?)).walk 39 true _ (.root :: _) = _
  rw [Disk.walk]
  refine inside.trans ?_
  rw [Disk.walk, Disk.walk]
  cases hash? <;> rfl

theorem run_build_circular (request : BuildRequest) (empty : request.sources = []) :
    (build .root ⟨"c"⟩ compiler ⟨package, []⟩ request).run (disk hash?) =
      (readBuild .root package (.exited 0)).run (rebuilt (cleared hash?)) := by
  have leads : (disk hash?).Leads Disk.linkLimit ((disk hash?).whereIs .root) steps [store] := by
    have start : (disk hash?).whereIs .root = [] := by cases hash? <;> rfl
    exact start ▸ leads_disk hash?
  have link : (disk hash?).hasDirectory ([store] ++ [blob]) = false := by cases hash? <;> rfl
  have first : (clear .root (artifact package blobName)).run (disk hash?) =
      (.ok (), cleared hash?) := by
    rw [run_clear_entry lookupSteps_blob (by decide) (by decide) leads, link]
    rfl
  have clearing : (clearAll .root (buildArtifacts package)).run (disk hash?) =
      (.ok (), cleared hash?) := by
    rw [buildArtifacts, run_clearAll_cons, first]
    dsimp only
    rw [run_clearAll_cons, run_cleared hash? lookupSteps_hash (by decide)]
    dsimp only
    rw [run_clearAll_cons, run_cleared hash? lookupSteps_errors (by decide)]
    rfl
  have passed : (⟨package, []⟩ : Access).check [] = .ok () := rfl
  rw [run_build, empty, passed]
  dsimp only
  rw [run_attempt, clearing]
  rfl

end

theorem isFile_blob (hash? : Option Disk.File) :
    (rebuilt (cleared hash?)).isFile .root (artifact package blobName) = true := by
  rw [Disk.isFile, Disk.stat_file _ .root _ steps blob [store] leftover (by decide) lookupSteps_blob
    (by decide) (by cases hash? <;> exact leads_rebuilt _) (by cases hash? <;> rfl)]

theorem read_hash : (rebuilt (cleared (some leftover))).read .root (artifact package hashName) =
    .ok leftover.bytes := by
  rw [Disk.read, Disk.stat_file _ .root _ steps hash [store] leftover (by decide) lookupSteps_hash
    (by decide) (leads_rebuilt _) rfl]
  rfl

theorem read_nothing : (rebuilt (cleared none)).read .root (artifact package hashName) =
    .error (.system .notFound) := by
  have nothing : (rebuilt (cleared none)).find .root true (artifact package hashName) =
      .ok ⟨[store, hash], none⟩ := by
    rw [Disk.find_of_refusal?_none _ _ _ _ (by decide), lookupSteps_hash]
    refine congrArg (Except.mapError FileError.system) (Disk.walk_follow _ _ _ _ _ ?_ (by simp))
    obtain ⟨node, walked⟩ := leads_rebuilt none
    change Disk.walk _ Disk.linkLimit false [] _ = _
    rw [Disk.walk_concat_name, walked]
    rfl
  rw [Disk.read, Disk.stat, nothing]
  rfl

end Circular

end Compiler

end PackageClosure
