import NetGuardian.CommunityPlugins

/-!
# Community plugins across invocations

Every `netguardian community` command is a process of its own.  What is
installed lives in a file between two of them, but the command builds its
registry with `new`, which does not read the file: each invocation starts with
nothing installed, and each installation overwrites the list of the earlier
ones.
-/

namespace NetGuardian

inductive CommunityCommand where
  | install (name : String)
  | list
  | remove (name : String)
  | info (name : String)
deriving DecidableEq

/-- What an invocation reports. -/
inductive CommunityOutput where
  | installed (manifest : CommunityPluginManifest)
  | installFailed (error : String)
  | noneInstalled
  | installedList (entries : List InstalledPluginEntry)
  | removed (name : String)
  | notInstalled (name : String)
  | described (manifest : CommunityPluginManifest) (installed : Bool)
  | unknownPlugin (name : String)
deriving DecidableEq

namespace CommunityOutput

/-- The names that a list shows. -/
def listedNames : CommunityOutput → List String
  | installedList entries => entries.map fun entry => entry.manifest.name
  | _ => []

end CommunityOutput

/-- One invocation in the directory of the file. -/
structure CommunityCall where
  command : CommunityCommand
  around : CommunityPluginRegistry.Surroundings

section Commands

variable (serde : Serde (List InstalledPluginEntry))

def cmdCommunity (disk : Disk) (call : CommunityCall) :
    Disk × CommunityOutput :=
  let registry := CommunityPluginRegistry.new
  match call.command with
  | .install name =>
      match registry.install serde disk call.around name with
      | (_, after, .ok manifest) => (after, .installed manifest)
      | (_, after, .error error) => (after, .installFailed error)
  | .list =>
      match registry.listInstalled call.around with
      | [] => (disk, .noneInstalled)
      | entry :: entries => (disk, .installedList (entry :: entries))
  | .remove name =>
      match registry.remove serde disk call.around name with
      | (_, after, true) => (after, .removed name)
      | (_, after, false) => (after, .notInstalled name)
  | .info name =>
      match registry.info name with
      | some manifest =>
          (disk, .described manifest (registry.isInstalled name))
      | none => (disk, .unknownPlugin name)

/-- What has been asked and answered so far, oldest first. -/
abbrev CommunityHistory := List (CommunityCommand × CommunityOutput)

/-- Invocations one after the other on the same directory. -/
def communityRun (disk : Disk) (calls : List CommunityCall) :
    Disk × CommunityHistory :=
  calls.foldl (fun state call =>
    let result := cmdCommunity serde state.1 call
    (result.1, state.2 ++ [(call.command, result.2)])) (disk, [])

end Commands

namespace CommunityHistory

/-- A name is installed if its latest successful installation has not been
followed by a successful removal. -/
def Installed (history : CommunityHistory) (name : String) : Prop :=
  ∃ before after manifest,
    history = before ++ (.install name, .installed manifest) :: after ∧
      (.remove name, .removed name) ∉ after

/-- The two laws of composition: a list shows what is installed, and what is
installed cannot be installed again. -/
structure Composes (history : CommunityHistory) : Prop where
  listed : ∀ before output after,
    history = before ++ (.list, output) :: after →
      ∀ name, name ∈ output.listedNames ↔ Installed before name
  refused : ∀ before name output after,
    history = before ++ (.install name, output) :: after →
      Installed before name →
        output = .installFailed (CommunityPluginRegistry.alreadyInstalled name)

end CommunityHistory

/-- The names in the built-in index. -/
def indexedNames : List String :=
  builtinIndex.map CommunityPluginManifest.name

section Fresh

variable {serde : Serde (List InstalledPluginEntry)} {disk : Disk}
variable {call : CommunityCall} {name : String}

/-- The entry of the index that a name stands for. -/
theorem find_builtinIndex (indexed : name ∈ indexedNames) :
    ∃ manifest ∈ builtinIndex, manifest.name = name ∧
      builtinIndex.find? (fun manifest => manifest.name = name) =
        some manifest := by
  obtain ⟨listed, member, named⟩ := List.mem_map.mp indexed
  have some_ : (builtinIndex.find? fun manifest =>
      manifest.name = name).isSome := by
    rw [List.find?_isSome]
    exact ⟨listed, member, by simpa using named⟩
  obtain ⟨manifest, found⟩ := Option.isSome_iff_exists.mp some_
  have matching := List.find?_some found
  exact ⟨manifest, List.mem_of_find?_eq_some found, by simpa using matching,
    found⟩

theorem cmdCommunity_install_indexed (indexed : name ∈ indexedNames)
    (installs : call.command = .install name) :
    ∃ manifest, (cmdCommunity serde disk call).2 = .installed manifest := by
  obtain ⟨manifest, member, _, found⟩ := find_builtinIndex indexed
  have compatible := builtinIndex_compatible manifest member
  refine ⟨manifest, ?_⟩
  simp [cmdCommunity, installs, CommunityPluginRegistry.install,
    CommunityPluginRegistry.new, found, compatible]

theorem cmdCommunity_install_unknown (unknown : name ∉ indexedNames)
    (installs : call.command = .install name) :
    (cmdCommunity serde disk call).2 =
      .installFailed (CommunityPluginRegistry.notFound name) := by
  have missing : builtinIndex.find? (fun manifest => manifest.name = name) =
      none := by
    rw [List.find?_eq_none]
    intro manifest member named
    exact unknown (List.mem_map.mpr ⟨manifest, member, by simpa using named⟩)
  simp [cmdCommunity, installs, CommunityPluginRegistry.install,
    CommunityPluginRegistry.new, missing]

theorem cmdCommunity_list (lists : call.command = .list) :
    (cmdCommunity serde disk call).2 = .noneInstalled := by
  have nothing : call.around.order.iterate [] = [] :=
    List.perm_nil.mp (call.around.order.perm [])
  have empty : CommunityPluginRegistry.new.listInstalled call.around = [] := by
    change List.insertionSort _ (call.around.order.iterate []) = []
    rw [nothing, List.insertionSort_nil]
  simp [cmdCommunity, lists, empty]

theorem cmdCommunity_remove (removes : call.command = .remove name) :
    (cmdCommunity serde disk call).2 = .notInstalled name := by
  simp [cmdCommunity, removes, CommunityPluginRegistry.remove,
    CommunityPluginRegistry.new]

end Fresh

/-- What a registry answers that has nothing installed. -/
def AnsweredFresh : CommunityCommand × CommunityOutput → Prop
  | (.install name, output) =>
      if name ∈ indexedNames then ∃ manifest, output = .installed manifest
      else output = .installFailed (CommunityPluginRegistry.notFound name)
  | (.list, output) => output = .noneInstalled
  | (.remove name, output) => output = .notInstalled name
  | (.info _, _) => True

section Runs

variable {serde : Serde (List InstalledPluginEntry)} {disk : Disk}
variable {calls : List CommunityCall}

theorem answeredFresh_cmdCommunity (call : CommunityCall) :
    AnsweredFresh (call.command, (cmdCommunity serde disk call).2) := by
  cases command : call.command with
  | install name =>
      by_cases indexed : name ∈ indexedNames
      · simp only [AnsweredFresh, if_pos indexed]
        exact cmdCommunity_install_indexed indexed command
      · simp only [AnsweredFresh, if_neg indexed]
        exact cmdCommunity_install_unknown indexed command
  | list => exact cmdCommunity_list command
  | remove name => exact cmdCommunity_remove command
  | info name => trivial

theorem communityRun_append (call : CommunityCall) :
    (communityRun serde disk (calls ++ [call])).2 =
      (communityRun serde disk calls).2 ++
        [(call.command,
          (cmdCommunity serde (communityRun serde disk calls).1 call).2)] := by
  simp [communityRun, List.foldl_append]

theorem communityRun_commands :
    (communityRun serde disk calls).2.map Prod.fst =
      calls.map CommunityCall.command := by
  induction calls using List.reverseRecOn with
  | nil => rfl
  | append_singleton calls call ih => simp [communityRun_append, ih]

/-- Whatever the file says, every invocation answers like the first one. -/
theorem communityRun_answeredFresh :
    ∀ entry ∈ (communityRun serde disk calls).2, AnsweredFresh entry := by
  induction calls using List.reverseRecOn with
  | nil =>
      intro entry member
      cases member
  | append_singleton calls call ih =>
      intro entry member
      rw [communityRun_append] at member
      rcases List.mem_append.mp member with earlier | last
      · exact ih entry earlier
      · rw [List.mem_singleton.mp last]
        exact answeredFresh_cmdCommunity call

end Runs

namespace CommunityHistory

variable {history : CommunityHistory} {name : String}

/-- In such a history nothing is ever removed, and everything that was asked
for is installed, if it is in the index. -/
theorem installed_iff (fresh : ∀ entry ∈ history, AnsweredFresh entry) :
    Installed history name ↔
      name ∈ indexedNames ∧ .install name ∈ history.map Prod.fst := by
  constructor
  · rintro ⟨before, after, manifest, rfl, _⟩
    have answer := fresh (.install name, .installed manifest) (by simp)
    by_cases indexed : name ∈ indexedNames
    · exact ⟨indexed, by simp⟩
    · simp [AnsweredFresh, indexed] at answer
  · rintro ⟨indexed, asked⟩
    obtain ⟨⟨command, output⟩, member, rfl⟩ := List.mem_map.mp asked
    have answer := fresh _ member
    simp only [AnsweredFresh, if_pos indexed] at answer
    obtain ⟨manifest, rfl⟩ := answer
    obtain ⟨before, after, split⟩ := List.append_of_mem member
    refine ⟨before, after, manifest, split, ?_⟩
    intro removed
    have inHistory : (.remove name, .removed name) ∈ history := by
      rw [split]
      exact List.mem_append_right _ (List.mem_cons_of_mem _ removed)
    have refused := fresh _ inHistory
    cases refused

/-- No list comes after the installation of an indexed plugin, and no such
plugin is installed a second time. -/
structure NeverAsksAgain (commands : List CommunityCommand) : Prop where
  list_first : ∀ before after, commands = before ++ .list :: after →
    ∀ name ∈ indexedNames, .install name ∉ before
  install_once : ∀ before name after,
    commands = before ++ .install name :: after → name ∈ indexedNames →
      .install name ∉ before

theorem composes_of_neverAsksAgain
    (fresh : ∀ entry ∈ history, AnsweredFresh entry)
    (never : NeverAsksAgain (history.map Prod.fst)) : Composes history where
  listed := by
    rintro before output after rfl name
    have answer := fresh (.list, output) (by simp)
    have before_fresh : ∀ entry ∈ before, AnsweredFresh entry :=
      fun entry member => fresh entry (List.mem_append_left _ member)
    rw [installed_iff before_fresh]
    have first := never.list_first (before.map Prod.fst) (after.map Prod.fst)
      (by simp)
    constructor
    · intro shown
      have nothing : output = .noneInstalled := answer
      rw [nothing] at shown
      cases shown
    · rintro ⟨indexed, asked⟩
      exact absurd asked (first name indexed)
  refused := by
    rintro before name output after rfl installed
    have before_fresh : ∀ entry ∈ before, AnsweredFresh entry :=
      fun entry member => fresh entry (List.mem_append_left _ member)
    obtain ⟨indexed, asked⟩ := (installed_iff before_fresh).mp installed
    have once := never.install_once (before.map Prod.fst) name
      (after.map Prod.fst) (by simp) indexed
    exact absurd asked once

/-- A command of the history stands there with its output. -/
theorem exists_entry {commands later : List CommunityCommand} {command : CommunityCommand}
    (split : history.map Prod.fst = commands ++ command :: later) :
    ∃ before output after, history = before ++ (command, output) :: after ∧
      commands = before.map Prod.fst := by
  obtain ⟨before, rest, rfl, rfl, restEq⟩ := List.map_eq_append_iff.mp split
  obtain ⟨⟨_, output⟩, after, rfl, rfl, _⟩ := List.map_eq_cons_iff.mp restEq
  exact ⟨before, output, after, rfl, rfl⟩

theorem neverAsksAgain_of_composes
    (fresh : ∀ entry ∈ history, AnsweredFresh entry)
    (composes : Composes history) :
    NeverAsksAgain (history.map Prod.fst) where
  list_first := by
    intro commands later split name indexed asked
    obtain ⟨before, output, after, rfl, rfl⟩ := exists_entry split
    have before_fresh : ∀ entry ∈ before, AnsweredFresh entry :=
      fun entry member => fresh entry (List.mem_append_left _ member)
    have installed := (installed_iff before_fresh).mpr ⟨indexed, asked⟩
    have shown := (composes.listed before output after rfl name).mpr installed
    have nothing : output = .noneInstalled := fresh (.list, output) (by simp)
    rw [nothing] at shown
    cases shown
  install_once := by
    intro commands name later split indexed asked
    obtain ⟨before, output, after, rfl, rfl⟩ := exists_entry split
    have before_fresh : ∀ entry ∈ before, AnsweredFresh entry :=
      fun entry member => fresh entry (List.mem_append_left _ member)
    have installed := (installed_iff before_fresh).mpr ⟨indexed, asked⟩
    have refused := composes.refused before name output after rfl installed
    have answer := fresh (.install name, output) (by simp)
    simp [AnsweredFresh, indexed, refused] at answer

end CommunityHistory

/-- Invocations compose exactly as long as none of them depends on an earlier
one. -/
theorem communityRun_composes_iff (serde : Serde (List InstalledPluginEntry))
    (disk : Disk) (calls : List CommunityCall) :
    CommunityHistory.Composes (communityRun serde disk calls).2 ↔
      CommunityHistory.NeverAsksAgain (calls.map CommunityCall.command) := by
  have fresh := @communityRun_answeredFresh serde disk calls
  rw [← @communityRun_commands serde disk calls]
  exact ⟨CommunityHistory.neverAsksAgain_of_composes fresh,
    CommunityHistory.composes_of_neverAsksAgain fresh⟩

/-- The entry of the index for `rsync`, installed at the start of 2026. -/
def rsyncEntry : InstalledPluginEntry where
  manifest :=
    { name := "rsync"
      version := "1.0.0"
      description :=
        "Fast file synchronization over SSH with retry and resume support"
      author := "NetGuardian Community"
      repository := some "https://github.com/rsync/rsync"
      license := some "GPL-3.0"
      tags := ["sync", "backup", "ssh", "transfer"]
      binary := "rsync"
      defaultArgs := ["-avz", "--progress", "--partial"]
      supportsResume := true
      homepage := some "https://rsync.samba.org"
      compatibility := some ⟨"0.1.0", "0.1.0"⟩
      checksum := none
      dependencies := [] }
  installedAt := "2026-01-01T00:00:00+00:00"

/-- A list with that entry alone, as `serde_json` prints it. -/
def rsyncJson : String :=
  "[
  \x7b
    \"manifest\": \x7b
      \"name\": \"rsync\",
      \"version\": \"1.0.0\",
      \"description\": \"Fast file synchronization over SSH with retry and resume support\",
      \"author\": \"NetGuardian Community\",
      \"repository\": \"https://github.com/rsync/rsync\",
      \"license\": \"GPL-3.0\",
      \"tags\": [
        \"sync\",
        \"backup\",
        \"ssh\",
        \"transfer\"
      ],
      \"binary\": \"rsync\",
      \"default_args\": [
        \"-avz\",
        \"--progress\",
        \"--partial\"
      ],
      \"supports_resume\": true,
      \"homepage\": \"https://rsync.samba.org\",
      \"compatibility\": \x7b
        \"api_version\": \"0.1.0\",
        \"min_api_version\": \"0.1.0\"
      \x7d,
      \"checksum\": null,
      \"dependencies\": []
    \x7d,
    \"installed_at\": \"2026-01-01T00:00:00+00:00\"
  \x7d
]"

/-- The serializer on that list. -/
def rsyncSerde : Serde (List InstalledPluginEntry) where
  toStringPretty _ := rsyncJson
  fromStr text := if text = rsyncJson then some [rsyncEntry] else none

def atNewYear : CommunityPluginRegistry.Surroundings where
  now := "2026-01-01T00:00:00+00:00"
  order := .asStored
  outcome := .done

/-- An installation in an empty directory, then a list. -/
def installThenList : List CommunityCall :=
  [⟨.install "rsync", atNewYear⟩, ⟨.list, atNewYear⟩]

/-- The installed plugin is in the file, where the other constructor finds it,
and is not listed. -/
theorem installed_plugin_not_listed :
    (communityRun rsyncSerde (fun _ => none) installThenList).2 =
        [(.install "rsync", .installed rsyncEntry.manifest),
          (.list, .noneInstalled)] ∧
      (CommunityPluginRegistry.withStoragePath rsyncSerde
        (communityRun rsyncSerde (fun _ => none) installThenList).1 true
          CommunityPluginRegistry.storageFile).isInstalled "rsync" = true ∧
      ¬ CommunityHistory.Composes
        (communityRun rsyncSerde (fun _ => none) installThenList).2 := by
  refine ⟨by decide, ?_, ?_⟩
  · have loaded : rsyncSerde.load
        (communityRun rsyncSerde (fun _ => none) installThenList).1 true
          CommunityPluginRegistry.storageFile = some [rsyncEntry] := by
      have decoded : rsyncSerde.fromStr rsyncJson = some [rsyncEntry] := by
        simp [rsyncSerde]
      apply Serde.load_eq_some_iff.mpr
      exact ⟨rsyncJson, Disk.readToString_write rsyncJson, decoded⟩
    rw [CommunityPluginRegistry.isInstalled,
      CommunityPluginRegistry.withStoragePath,
      CommunityPluginRegistry.loadInstalled, loaded]
    rfl
  · rw [communityRun_composes_iff]
    intro never
    exact never.list_first [.install "rsync"] [] rfl "rsync" (by decide)
      (by decide)

end NetGuardian
