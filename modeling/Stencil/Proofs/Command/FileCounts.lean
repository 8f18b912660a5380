import Mathlib
import Stencil.Proofs.Command.Runs
import Stencil.Proofs.Keyed
import Stencil.Proofs.Output.Files
import Stencil.Proofs.Pass.Clean

/-!
# How many files a run reports

The last line of a run tells how many files it has generated, and that of a dry run how many it
would generate. The two numbers come from different data: the run adds up what was written in each
of its rounds, and the dry run counts the files that memory holds in the end, of which there is one
for each name. Where nothing fails, either is told by the packages that were asked for
(`lastLine?_run`, `lastLine?_dryRun`), with repetitions in a run and without in a dry run.

A package that recurs in its round is a failure, but one that recurs in a later round is not: its
file is written anew. So the number of the dry run is the right one, and the run tells more files
than there are exactly if a package recurs (`runCommand_counts`).
-/

namespace Stencil

/-! ### The last line -/

/-- The line that a command shows last. -/
def Ending.lastLine? : Ending → Option Line
  | shown lines _ => lines.getLast?
  | _ => none

namespace RunReport

variable {report : RunReport}

/-- If nothing failed, the last line tells how many files there are. -/
theorem lastLine?_ending (h : ∀ o ∈ report.rounds, o.failures = []) :
    report.ending.lastLine? = some report.totalLine := by
  have hcount : ¬ report.failureCount > 0 := by
    rw [failureCount_eq_zero_iff.2 h]
    exact Nat.lt_irrefl 0
  show report.lines.getLast? = _
  unfold lines
  rw [if_neg hcount, List.append_nil, List.getLast?_append]
  rfl

theorem writtenCount_eq : report.writtenCount = (report.rounds.flatMap (·.written)).length :=
  (length_flatMap_eq_total _ _).symm

end RunReport

/-! ### What is published -/

/-- **A memory that holds texts under some names**, and under no others. -/
structure MemoryArea.Names (names : List String) (memory : MemoryArea) : Prop where
  writable : memory.readOnly = false
  sorted : memory.files.Sorted
  mem_iff : ∀ name, name ∈ memory.files.names ↔ name ∈ names

theorem MemoryArea.tracks_names : Tracks MemoryArea.output.publish MemoryArea.Names := by
  intro names memory a next hnames hpublish
  rw [publish_eq a hnames.writable] at hpublish
  obtain rfl : memory.put a.name a.content = next := congrArg Prod.snd hpublish
  refine ⟨hnames.writable, hnames.sorted.put _ _, fun name => ?_⟩
  unfold put
  rw [Keyed.mem_names_put, hnames.mem_iff, List.mem_append, List.mem_singleton, or_comm]

/-- A sorted list has one entry for each of its names. -/
theorem MemoryArea.Names.length_files {names : List String} {memory : MemoryArea}
    (h : memory.Names names) : memory.files.length = names.dedup.length :=
  calc memory.files.length
    _ = memory.files.names.length := (List.length_map _).symm
    _ = names.dedup.length := length_eq_length_dedup h.sorted.nodup_names h.mem_iff

/-- **A tree whose files below the directory of a path are those of some names**, wherever the
directories come from. -/
structure Tree.Names (tree : Tree) (path : String) (names : List String) (after : Tree) :
    Prop where
  home : after.home = tree.home
  isFile_iff : ∀ x, (tree.placeOf path).isAbove x = true →
    (after.isFile x = true ↔
      ∃ name ∈ names, x = DirectoryArea.filePlace "java" (tree.placeOf path) name)

/-- Publishing into a tree is publishing below a directory of it, in files for source text. -/
theorem Tree.exists_publish {path : String} {a : Artifact} {before after : Tree}
    (h : Tree.access.publish path a before = (.ok (), after)) :
    ∃ area, DirectoryArea.output.publish a { root := path, tree := before } = (.ok (), area) ∧
      area.tree = after := by
  rcases harea : DirectoryArea.output.publish a { root := path, tree := before } with ⟨result, area⟩
  have hafter : (result, area.tree) = (.ok (), after) := by
    rw [← h]
    exact (congrArg (fun run : _ × DirectoryArea => (run.1, run.2.tree)) harea).symm
  obtain ⟨hresult, htree⟩ := Prod.ext_iff.1 hafter
  exact ⟨area, congrArg (·, area) hresult, htree⟩

theorem Tree.tracks_names (tree : Tree) (path : String) :
    Tracks (Tree.access.publish path) (tree.Names path) := by
  intro names before a after hnames hpublish
  obtain ⟨area, harea, rfl⟩ := Tree.exists_publish hpublish
  have hextension : '/' ∉ "java".toList := by decide
  obtain ⟨next, rfl, halike, hfile⟩ := DirectoryArea.isFile_publish hextension harea
  have hplace : DirectoryArea.place { root := path, tree := before } = tree.placeOf path :=
    placeOf_congr hnames.home path
  refine ⟨halike.home.trans hnames.home, fun x hx => ?_⟩
  -- the file of the new name is there, and all others are as before
  rw [hfile, Bool.or_eq_true, beq_iff_eq, hplace, hnames.isFile_iff x hx]
  simp only [List.mem_append, List.mem_singleton, or_and_right, exists_or, exists_eq_left]
  exact or_comm

/-- A tree without files below a directory has those of no names. -/
theorem Tree.names_nil {tree : Tree} {path : String}
    (h : tree.filesBelow (tree.placeOf path) = []) : tree.Names path [] tree := by
  refine ⟨rfl, fun x hx => iff_of_false ?_ ?_⟩
  · intro hfile
    have hmem : x ∈ tree.filesBelow (tree.placeOf path) := mem_filesBelow.2 ⟨hx, hfile⟩
    rw [h] at hmem
    exact List.not_mem_nil hmem
  · rintro ⟨name, hname, -⟩
    exact List.not_mem_nil hname

/-- A fresh directory has no files below it. -/
theorem DirectoryArea.IsFresh.filesBelow_eq_nil {fresh : DirectoryArea} {place : Location}
    (h : fresh.IsFresh place) : fresh.tree.filesBelow fresh.place = [] := by
  obtain rfl : place = fresh.place := Tree.eq_walk_of_follow h.found
  apply List.eq_nil_iff_forall_not_mem.2
  intro x hx
  obtain ⟨habove, hfile⟩ := Tree.mem_filesBelow.1 hx
  obtain ⟨content, hnode⟩ := Tree.isFile_iff.1 hfile
  -- there is nothing below the directory, which is no file itself
  by_cases hplace : x = fresh.place
  · rw [hplace, h.directory] at hnode
    exact nomatch hnode
  · rw [h.empty x habove hplace] at hnode
    exact nomatch hnode

/-! ### The two counts -/

section

variable {o : RunOptions} {tree : Tree} {m : Manifest} {feed : Feed}

/-- **A dry run without failures** counts the packages that were asked for, each of them once. -/
theorem lastLine?_dryRun (h : o.Opens tree m feed)
    (hsuccess : (runCommand Tree.access { o with dryRun := true } tree).1.exitCode = 0) :
    let packages := (PassConfig.ofManifest m).packages feed.rounds
    (runCommand Tree.access { o with dryRun := true } tree).1.lastLine? =
      some (.text s!"{packages.dedup.length} file(s) would be generated") := by
  intro packages
  rw [h.dryRun] at hsuccess ⊢
  have hclean := RunReport.exitCode_ending_iff.1 hsuccess
  have hnone : MemoryArea.Names [] {} := ⟨rfl, List.Pairwise.nil, fun _ => .rfl⟩
  -- an area in memory has each name once, so repeated packages leave one name
  obtain ⟨-, hnames⟩ := MemoryArea.tracks_names.runRounds (fun _ _ => Strategy.name_of_render) _ _
    hnone hclean
  dsimp only
  rw [RunReport.lastLine?_ending hclean, RunReport.totalLine]
  dsimp only
  -- the class name is the same for all, so the names tell the packages apart
  rw [hnames.length_files, List.nil_append, length_dedup_map fun _ _ => qualifiedName_inj]

/-- **Any other run without failures** counts them as often as they were asked for, and leaves one
file for each of them in a directory that had none. -/
theorem lastLine?_run (h : o.Opens tree m feed)
    (hfresh : tree.filesBelow (tree.placeOf o.output) = [])
    (hsuccess : (runCommand Tree.access { o with dryRun := false } tree).1.exitCode = 0) :
    let packages := (PassConfig.ofManifest m).packages feed.rounds
    let run := runCommand Tree.access { o with dryRun := false } tree
    run.1.lastLine? = some (.field "Generated" s!"{packages.length} file(s) in {o.output}") ∧
      (run.2.filesBelow (tree.placeOf o.output)).length = packages.dedup.length := by
  dsimp only
  rw [h.run] at hsuccess ⊢
  have hclean := RunReport.exitCode_ending_iff.1 hsuccess
  -- the files below the output are there only once, whatever was written to them again
  obtain ⟨hwritten, hnames⟩ := (tree.tracks_names o.output).runRounds
    (fun _ _ => Strategy.name_of_render) _ _ (Tree.names_nil hfresh) hclean
  dsimp only
  constructor
  · -- the total is over what the rounds tell, which is every name of theirs
    rw [RunReport.lastLine?_ending hclean, RunReport.totalLine]
    dsimp only
    rw [RunReport.writtenCount_eq, hwritten, List.length_map]
  · rw [DirectoryArea.length_filesBelow hnames.isFile_iff, List.nil_append,
      length_dedup_map fun _ _ => qualifiedName_inj]

/-- **The counts of a run.** Of a run and a dry run for the same documents that both succeed, the
run into a directory without files, the dry run counts the packages that were asked for, each of
them once, and there are as many files afterwards. The other run counts a package once for every
round that asked for it. So the two tell the same number exactly if no package recurs. -/
theorem runCommand_counts (h : o.Opens tree m feed)
    (hfresh : tree.filesBelow (tree.placeOf o.output) = [])
    (hdry : (runCommand Tree.access { o with dryRun := true } tree).1.exitCode = 0)
    (hreal : (runCommand Tree.access { o with dryRun := false } tree).1.exitCode = 0) :
    let packages := (PassConfig.ofManifest m).packages feed.rounds
    let dry := runCommand Tree.access { o with dryRun := true } tree
    let real := runCommand Tree.access { o with dryRun := false } tree
    dry.2 = tree ∧
      dry.1.lastLine? = some (.text s!"{packages.dedup.length} file(s) would be generated") ∧
      real.1.lastLine? = some (.field "Generated" s!"{packages.length} file(s) in {o.output}") ∧
      (real.2.filesBelow (tree.placeOf o.output)).length = packages.dedup.length ∧
      (packages.length = packages.dedup.length ↔ packages.Nodup) := by
  intro packages dry real
  have htree : dry.2 = tree := congrArg Prod.snd h.dryRun
  have hannounced := lastLine?_dryRun h hdry
  obtain ⟨hreported, hfiles⟩ := lastLine?_run h hfresh hreal
  -- a list loses nothing without its repetitions exactly if it had none
  have hnodup : packages.length = packages.dedup.length ↔ packages.Nodup := by
    constructor
    · intro hlength
      rw [← (List.dedup_sublist packages).eq_of_length hlength.symm]
      exact List.nodup_dedup packages
    · intro hnodup
      rw [hnodup.dedup]
  exact ⟨htree, hannounced, hreported, hfiles, hnodup⟩

end

/-! A package that two rounds ask for. -/

/-- A manifest that leaves all but its marker as it is. -/
def plainManifest : Manifest :=
  ⟨⟨"m", .structured⟩, .default⟩

def plainManifestText : String :=
  "[generator]\nmarker = \"m\"\n"

def recurringFeed : Feed :=
  ⟨[⟨[⟨"m", "a", none⟩]⟩, ⟨[⟨"m", "a", none⟩]⟩]⟩

def recurringFeedText : String :=
  "[[rounds]]\ndeclarations = [\x7b marker = \"m\", namespace = \"a\" \x7d]\n\n" ++
    "[[rounds]]\ndeclarations = [\x7b marker = \"m\", namespace = \"a\" \x7d]\n"

/-- The two documents, beside an empty directory. -/
def recurringTree : Tree where
  nodes := [(Location.root.down "etch.toml", .file (Text.bytesOf plainManifestText)),
    (Location.root.down "rounds.toml", .file (Text.bytesOf recurringFeedText)),
    (Location.root.down "generated", .directory)]
  nameLimit := none
  pathLimit := none

set_option maxRecDepth 4000 in
theorem read?_plainManifestText :
    Config.Toml.read? plainManifestText =
      some (.table [("generator", .table [("marker", .string "m")])]) := by
  unfold plainManifestText
  cbv

theorem parse_plainManifestText :
    Manifest.parse "etch.toml" plainManifestText = .ok plainManifest := by
  unfold Manifest.parse readDocument
  rw [read?_plainManifestText]
  rfl

set_option maxRecDepth 4000 in
theorem parse_recurringFeedText :
    Feed.parse "rounds.toml" recurringFeedText = .ok recurringFeed := by
  unfold recurringFeedText
  cbv

theorem opens_recurringTree : RunOptions.Opens {} recurringTree plainManifest recurringFeed where
  config := ⟨_, openDocument_of_readFile (by decide +kernel) parse_plainManifestText⟩
  rounds := ⟨_, openDocument_of_readFile (by decide +kernel) parse_recurringFeedText⟩

theorem isFresh_recurringTree :
    DirectoryArea.IsFresh { root := "generated", tree := recurringTree }
      (.down .root "generated") where
  nameLimit := rfl
  pathLimit := rfl
  root := by decide
  extension := by decide
  found := by decide
  directory := by decide
  empty _ := DirectoryArea.node?_eq_none_of_empty (by decide) (by decide)

theorem filesBelow_recurringTree :
    recurringTree.filesBelow (recurringTree.placeOf "generated") = [] :=
  isFresh_recurringTree.filesBelow_eq_nil

theorem exitCode_recurring_dryRun :
    (runCommand Tree.access { dryRun := true } recurringTree).1.exitCode = 0 :=
  opens_recurringTree.exitCode_dryRun (by decide +kernel)

theorem exitCode_recurring :
    (runCommand Tree.access {} recurringTree).1.exitCode = 0 := by
  have hsame := opens_recurringTree.exitCode_run rfl isFresh_recurringTree
  exact hsame.trans exitCode_recurring_dryRun

/-- The run tells of two files where there is one. -/
theorem runCommand_counts_recurring :
    (runCommand Tree.access { dryRun := true } recurringTree).1.exitCode = 0 ∧
      (runCommand Tree.access {} recurringTree).1.exitCode = 0 ∧
      (runCommand Tree.access { dryRun := true } recurringTree).1.lastLine? =
        some (.text "1 file(s) would be generated") ∧
      (runCommand Tree.access {} recurringTree).1.lastLine? =
        some (.field "Generated" "2 file(s) in generated") ∧
      ((runCommand Tree.access {} recurringTree).2.filesBelow
        (recurringTree.placeOf "generated")).length = 1 := by
  obtain ⟨-, hdry, hreal, hfiles, -⟩ := runCommand_counts opens_recurringTree
    filesBelow_recurringTree exitCode_recurring_dryRun exitCode_recurring
  exact ⟨exitCode_recurring_dryRun, exitCode_recurring, hdry, hreal, hfiles⟩

/-- So the two commands do not always tell the same number. -/
theorem not_sameCount_recurring :
    ¬ ∀ (o : RunOptions) (tree : Tree), tree.filesBelow (tree.placeOf o.output) = [] →
      (runCommand Tree.access { o with dryRun := true } tree).1.exitCode = 0 →
      (runCommand Tree.access { o with dryRun := false } tree).1.exitCode = 0 →
      ∃ count : Nat,
        (runCommand Tree.access { o with dryRun := true } tree).1.lastLine? =
            some (.text s!"{count} file(s) would be generated") ∧
          (runCommand Tree.access { o with dryRun := false } tree).1.lastLine? =
            some (.field "Generated" s!"{count} file(s) in {o.output}") ∧
          ((runCommand Tree.access { o with dryRun := false } tree).2.filesBelow
            (tree.placeOf o.output)).length = count := by
  intro hclaim
  obtain ⟨count, -, hreal, hfiles⟩ := hclaim {} recurringTree filesBelow_recurringTree
    exitCode_recurring_dryRun exitCode_recurring
  obtain ⟨hreported, hlength⟩ :=
    lastLine?_run opens_recurringTree filesBelow_recurringTree exitCode_recurring
  -- one file is there, but the run tells of two
  have hone : count = 1 := hfiles.symm.trans hlength
  rw [hone] at hreal
  have hsame := hreal.symm.trans hreported
  exact absurd hsame (by decide)

end Stencil
