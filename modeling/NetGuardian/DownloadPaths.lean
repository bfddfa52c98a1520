import NetGuardian.DownloadManager
import Mathlib.Data.List.Forall2

/-!
# Where downloads are saved

A download is saved under the base directory, in a file that is named after its
URL.  The name keeps dots and can be empty, so that the empty URL, `.` and `..`
name no file in that directory, and it replaces every special character, so that
many URLs name one file.  These are the only ways in which a run of tracked
downloads can go wrong.

Paths are compared by their components, as the standard library compares them.
-/

namespace NetGuardian

/-- A component of a path of a Unix system. -/
inductive PathComponent where
  | rootDir
  | curDir
  | parentDir
  | normal (name : List Char)
deriving DecidableEq

namespace PathComponent

/-- The text between two separators; nothing and a single dot are dropped. -/
def ofPiece (piece : List Char) : Option PathComponent :=
  if piece = [] ∨ piece = ['.'] then none
  else if piece = ['.', '.'] then some .parentDir
  else some (.normal piece)

/-- The text before the first separator, if there is one. -/
def ofStart (piece : List Char) : List PathComponent :=
  if piece = [] then [.rootDir]
  else if piece = ['.'] then [.curDir]
  else (ofPiece piece).toList

end PathComponent

open PathComponent

/-- The components of a path that was split at its separators. -/
def componentsOf : List (List Char) → List PathComponent
  | [] => []
  | [[]] => []
  | start :: rest => ofStart start ++ rest.filterMap ofPiece

/-- `Path::components`. -/
def pathComponents (path : Path) : List PathComponent :=
  componentsOf (path.toList.splitOn '/')

/-- `Path::parent`, as components. -/
def pathParent (path : Path) : Option (List PathComponent) :=
  match (pathComponents path).getLast? with
  | none | some .rootDir => none
  | some _ => some (pathComponents path).dropLast

/-- `Path::file_name`. -/
def pathFileName (path : Path) : Option (List Char) :=
  match (pathComponents path).getLast? with
  | some (.normal name) => some name
  | _ => none

/-- The name of a file in a directory. -/
def ProperName (name : List Char) : Prop :=
  name ≠ [] ∧ name ≠ ['.'] ∧ name ≠ ['.', '.']

section Joining

variable {base : Path} {name : String} {start : List Char} {rest : List (List Char)}

theorem componentsOf_cons (begins : start ≠ [] ∨ rest ≠ []) :
    componentsOf (start :: rest) = ofStart start ++ rest.filterMap ofPiece := by
  unfold componentsOf
  split
  · next empty => cases empty
  · next empty =>
      cases empty
      exact absurd begins (by simp)
  · next pieces =>
      cases pieces
      rfl

/-- A path that is split has a first piece, and the empty path has no other. -/
theorem exists_split (path : Path) :
    ∃ start rest, path.toList.splitOn '/' = start :: rest ∧
      (path ≠ "" → start ≠ [] ∨ rest ≠ []) := by
  obtain ⟨start, rest, split⟩ :=
    List.exists_cons_of_ne_nil (List.splitOn_ne_nil '/' path.toList)
  refine ⟨start, rest, split, fun nonempty => ?_⟩
  by_contra neither
  rw [not_or, not_not, not_not] at neither
  obtain ⟨rfl, rfl⟩ := neither
  have joined : List.intercalate ['/'] (path.toList.splitOn '/') = path.toList :=
    List.intercalate_splitOn '/'
  rw [split] at joined
  exact nonempty (String.toList_inj.mp joined.symm)

/-- Joining a name to a directory appends what the name contributes. -/
theorem pathComponents_joinPath (nonempty : base ≠ "")
    (oneName : '/' ∉ name.toList) :
    pathComponents (joinPath base name) =
      pathComponents base ++ (ofPiece name.toList).toList := by
  have nameAlone : name.toList.splitOn '/' = [name.toList] :=
    List.splitOn_eq_singleton oneName
  have contributes : ∀ piece, [piece].filterMap ofPiece = (ofPiece piece).toList := by
    intro piece
    rw [List.filterMap_cons]
    cases ofPiece piece <;> rfl
  have appended : ∀ start rest, start ≠ [] ∨ rest ≠ [] →
      componentsOf (start :: (rest ++ [name.toList])) =
        componentsOf (start :: rest) ++ (ofPiece name.toList).toList := by
    intro start rest begins
    rw [componentsOf_cons (.inr (by simp)), componentsOf_cons begins,
      List.filterMap_append, List.append_assoc, contributes]
  unfold joinPath pathComponents
  by_cases trailing : base.toList.getLast? = some '/'
  · obtain ⟨front, isFront⟩ := List.getLast?_eq_some_iff.mp trailing
    obtain ⟨start, rest, split⟩ :=
      List.exists_cons_of_ne_nil (List.splitOn_ne_nil '/' front)
    rw [if_pos (.inr trailing), String.toList_append, isFront, List.append_assoc,
      List.singleton_append, List.splitOn_append_cons_self,
      List.splitOn_append_cons_self, nameAlone, split, List.splitOn_nil,
      List.cons_append, List.cons_append]
    rw [componentsOf_cons (.inr (by simp)), componentsOf_cons (.inr (by simp)),
      List.filterMap_append, List.filterMap_append, contributes, contributes]
    simp [ofPiece]
  · obtain ⟨start, rest, split, begins⟩ := exists_split base
    rw [if_neg (by simp [nonempty, trailing]), String.toList_append,
      String.toList_append, List.append_assoc]
    change componentsOf ((base.toList ++ '/' :: name.toList).splitOn '/') = _
    rw [List.splitOn_append_cons_self, nameAlone, split, List.cons_append,
      appended start rest (begins nonempty)]

/-- The path of the current directory is empty, and a name stands for itself. -/
theorem pathComponents_joinPath_empty (oneName : '/' ∉ name.toList) :
    pathComponents (joinPath "" name) = componentsOf [name.toList] := by
  have alone : joinPath "" name = name := by
    simp [joinPath]
  rw [alone, pathComponents, List.splitOn_eq_singleton oneName]

theorem ofPiece_eq_normal_iff {piece other : List Char} :
    ofPiece piece = some (.normal other) ↔ ProperName piece ∧ other = piece := by
  unfold ofPiece ProperName
  by_cases dropped : piece = [] ∨ piece = ['.']
  · rw [if_pos dropped]
    refine iff_of_false (fun some => by cases some) ?_
    rintro ⟨⟨nonempty, notDot, _⟩, _⟩
    exact dropped.elim nonempty notDot
  · rw [if_neg dropped]
    rw [not_or] at dropped
    by_cases dots : piece = ['.', '.']
    · simp [dots]
    · rw [if_neg dots, Option.some.injEq, PathComponent.normal.injEq]
      exact ⟨fun same => ⟨⟨dropped.1, dropped.2, dots⟩, same.symm⟩,
        fun proper => proper.2.symm⟩

/-- A relative path of one piece. -/
theorem componentsOf_single {piece other : List Char} :
    componentsOf [piece] = [.normal other] ↔ ProperName piece ∧ other = piece := by
  by_cases empty : piece = []
  · subst empty
    refine iff_of_false (fun same => by cases same) ?_
    exact fun proper => proper.1.1 rfl
  · rw [componentsOf_cons (.inl empty), List.filterMap_nil, List.append_nil, ofStart,
      if_neg empty, ← ofPiece_eq_normal_iff]
    by_cases dot : piece = ['.']
    · subst dot
      simp [ofPiece]
    · rw [if_neg dot]
      cases ofPiece piece <;> simp

/-- A name that is joined to a directory names a file in it exactly if it is a
proper name. -/
theorem pathComponents_joinPath_iff (oneName : '/' ∉ name.toList)
    {other : List Char} :
    pathComponents (joinPath base name) = pathComponents base ++ [.normal other] ↔
      ProperName name.toList ∧ other = name.toList := by
  by_cases empty : base = ""
  · subst empty
    rw [pathComponents_joinPath_empty oneName]
    exact componentsOf_single
  · rw [pathComponents_joinPath empty oneName, List.append_cancel_left_eq,
      ← ofPiece_eq_normal_iff]
    cases ofPiece name.toList <;> simp

end Joining

namespace DownloadManager

variable {manager : DownloadManager} {table : AlphanumericTable}
variable {base : Path} {name first second : String}

/-- The destination is a file with a proper name in the base directory. -/
def Confined (base destination : Path) : Prop :=
  pathParent destination = some (pathComponents base) ∧
    ∃ name, pathFileName destination = some name ∧ ProperName name

/-- What `track` has returned in the calls of a run, in their order. -/
def trackAll : DownloadManager → List (Job × String) → List DownloadProgress
  | _, [] => []
  | manager, call :: calls =>
      ((manager.track call.1 call.2).jobs.lookup call.1.id).toList ++
        trackAll (manager.track call.1 call.2) calls

/-- Every destination is a file in the base directory, and downloads of
different URLs are saved in different files. -/
def DestinationsSound (manager : DownloadManager) (calls : List (Job × String)) :
    Prop :=
  (∀ download ∈ manager.trackAll calls,
      Confined manager.baseDir download.destination) ∧
    ∀ one ∈ manager.trackAll calls, ∀ other ∈ manager.trackAll calls,
      one.url ≠ other.url →
        pathComponents one.destination ≠ pathComponents other.destination

/-- Two texts that are the same except for characters that are replaced by
underscores, or are underscores. -/
def SameButSpecial (table : AlphanumericTable) (first second : String) : Prop :=
  List.Forall₂ (fun letter other => letter = other ∨
      ((table.keeps letter = false ∨ letter = '_') ∧
        (table.keeps other = false ∨ other = '_')))
    first.toList second.toList

/-- No URL is empty or consists of one or two dots, and no two URLs differ in
special characters alone. -/
def UrlsSound (table : AlphanumericTable) (calls : List (Job × String)) : Prop :=
  (∀ call ∈ calls, call.2 ≠ "" ∧ call.2 ≠ "." ∧ call.2 ≠ "..") ∧
    ∀ one ∈ calls, ∀ other ∈ calls, one.2 ≠ other.2 →
      ¬ SameButSpecial table one.2 other.2

/-- In components: one proper name behind the base. -/
theorem confined_iff {destination : Path} :
    Confined base destination ↔ ∃ name, ProperName name ∧
      pathComponents destination = pathComponents base ++ [.normal name] := by
  unfold Confined pathParent pathFileName
  constructor
  · rintro ⟨inBase, name, isName, proper⟩
    cases last : (pathComponents destination).getLast? with
    | none =>
        rw [last] at inBase
        cases inBase
    | some component =>
        rw [last] at inBase isName
        cases component with
        | normal other =>
            cases isName
            have front : (pathComponents destination).dropLast = pathComponents base :=
              Option.some.inj inBase
            refine ⟨name, proper, ?_⟩
            rw [← front]
            exact (List.dropLast_append_getLast? _ last).symm
        | rootDir | curDir | parentDir => cases isName
  · rintro ⟨name, proper, components⟩
    rw [components, List.getLast?_concat, List.dropLast_concat]
    exact ⟨rfl, name, rfl, proper⟩

section Names

theorem keeps_slash : table.keeps '/' = false := by
  have letter := table.ascii '/' (by decide)
  simp [AlphanumericTable.keeps, letter]

theorem slash_notMem_sanitizeFilename (url : String) :
    '/' ∉ (sanitizeFilename table url).toList := by
  rw [sanitizeFilename, AlphanumericTable.replaceSpecial, String.toList_ofList]
  intro member
  obtain ⟨letter, _, replaced⟩ := List.mem_map.mp member
  split at replaced
  · next kept =>
      rw [replaced, keeps_slash] at kept
      cases kept
  · cases replaced

/-- A dot is kept, and nothing else becomes one. -/
theorem replaced_eq_dot_iff {letter : Char} :
    (if table.keeps letter = true then letter else '_') = '.' ↔ letter = '.' := by
  constructor
  · intro dot
    split at dot
    · exact dot
    · cases dot
  · rintro rfl
    simp [AlphanumericTable.keeps]

/-- The improper names come from the improper URLs. -/
theorem properName_sanitizeFilename_iff (table : AlphanumericTable) (url : String) :
    ProperName (sanitizeFilename table url).toList ↔
      url ≠ "" ∧ url ≠ "." ∧ url ≠ ".." := by
  have dot : url = "." ↔ url.toList = ['.'] := String.toList_inj.symm
  have dots : url = ".." ↔ url.toList = ['.', '.'] := String.toList_inj.symm
  rw [sanitizeFilename, AlphanumericTable.replaceSpecial, String.toList_ofList,
    ProperName, ne_eq, ne_eq, ne_eq, ne_eq, ne_eq, ne_eq, dot, dots,
    ← String.toList_eq_nil_iff]
  simp only [List.map_eq_nil_iff, List.map_eq_cons_iff, replaced_eq_dot_iff]
  simp

/-- The replacement identifies exactly the texts that differ in special
characters. -/
theorem sanitizeFilename_eq_iff :
    sanitizeFilename table first = sanitizeFilename table second ↔
      SameButSpecial table first second := by
  have sameLetter : ∀ letter other : Char,
      (if table.keeps letter = true then letter else '_') =
          (if table.keeps other = true then other else '_') ↔
        letter = other ∨
          ((table.keeps letter = false ∨ letter = '_') ∧
            (table.keeps other = false ∨ other = '_')) := by
    intro letter other
    by_cases kept : table.keeps letter = true
    · by_cases otherKept : table.keeps other = true
      · rw [if_pos kept, if_pos otherKept]
        simp only [kept, otherKept, Bool.true_eq_false, false_or]
        constructor
        · exact .inl
        · rintro (same | ⟨rfl, rfl⟩)
          · exact same
          · rfl
      · rw [if_pos kept, if_neg otherKept]
        simp only [kept, otherKept, Bool.true_eq_false, false_or, true_or, and_true]
        constructor
        · exact .inr
        · rintro (rfl | underscore)
          · exact absurd kept otherKept
          · exact underscore
    · by_cases otherKept : table.keeps other = true
      · rw [if_neg kept, if_pos otherKept]
        simp only [kept, otherKept, Bool.true_eq_false, false_or, true_or, true_and]
        constructor
        · exact fun underscore => .inr underscore.symm
        · rintro (rfl | underscore)
          · exact absurd otherKept kept
          · exact underscore.symm
      · simp [kept, otherKept]
  rw [sanitizeFilename, sanitizeFilename, AlphanumericTable.replaceSpecial,
    AlphanumericTable.replaceSpecial, String.ofList_inj, SameButSpecial]
  rw [← List.forall₂_eq_eq_eq, List.forall₂_map_left_iff, List.forall₂_map_right_iff]
  simp only [sameLetter]

end Names

section Runs

variable {calls : List (Job × String)} {url : String}

theorem confined_joinPath_iff :
    Confined base (joinPath base (sanitizeFilename table url)) ↔
      url ≠ "" ∧ url ≠ "." ∧ url ≠ ".." := by
  rw [confined_iff, ← properName_sanitizeFilename_iff table]
  simp only [pathComponents_joinPath_iff (slash_notMem_sanitizeFilename url)]
  constructor
  · rintro ⟨name, _, proper, _⟩
    exact proper
  · exact fun proper => ⟨_, proper, proper, rfl⟩

/-- The downloads of a run have the URLs of the calls, and destinations that are
made from them. -/
theorem mem_trackAll_iff {download : DownloadProgress} :
    download ∈ manager.trackAll calls →
      (∃ call ∈ calls, download.url = call.2) ∧
        download.destination =
          joinPath manager.baseDir (sanitizeFilename manager.table download.url) := by
  intro member
  induction calls generalizing manager with
  | nil => cases member
  | cons call calls ih =>
      rcases List.mem_append.mp member with new | later
      · rw [track, AList.lookup_insert, Option.toList_some, List.mem_singleton] at new
        subst new
        exact ⟨⟨call, List.mem_cons_self, rfl⟩, rfl⟩
      · obtain ⟨⟨other, isCall, sameUrl⟩, destination⟩ := ih later
        exact ⟨⟨other, List.mem_cons_of_mem _ isCall, sameUrl⟩, destination⟩

theorem exists_mem_trackAll (manager : DownloadManager) {call : Job × String}
    (isCall : call ∈ calls) :
    ∃ download ∈ manager.trackAll calls, download.url = call.2 := by
  induction calls generalizing manager with
  | nil => cases isCall
  | cons first calls ih =>
      rw [trackAll]
      rcases List.mem_cons.mp isCall with rfl | later
      · rw [track, AList.lookup_insert]
        exact ⟨_, List.mem_append_left _ (List.mem_singleton_self _), rfl⟩
      · obtain ⟨download, member, sameUrl⟩ := ih (manager.track first.1 first.2) later
        exact ⟨download, List.mem_append_right _ member, sameUrl⟩

/-- The destinations of a run are confined and distinct exactly if its URLs are
neither empty nor dots and no two of them differ in special characters alone. -/
theorem destinationsSound_iff (manager : DownloadManager)
    (calls : List (Job × String)) :
    manager.DestinationsSound calls ↔ UrlsSound manager.table calls := by
  constructor
  · rintro ⟨confined, distinct⟩
    constructor
    · intro call isCall
      obtain ⟨download, member, sameUrl⟩ := exists_mem_trackAll manager isCall
      have inBase := confined download member
      rw [(mem_trackAll_iff member).2, confined_joinPath_iff, sameUrl] at inBase
      exact inBase
    · intro one isOne other isOther differ same
      obtain ⟨first, firstMember, firstUrl⟩ :=
        exists_mem_trackAll manager isOne
      obtain ⟨second, secondMember, secondUrl⟩ :=
        exists_mem_trackAll manager isOther
      apply distinct first firstMember second secondMember (by rwa [firstUrl, secondUrl])
      rw [(mem_trackAll_iff firstMember).2, (mem_trackAll_iff secondMember).2, firstUrl,
        secondUrl, sanitizeFilename_eq_iff.mpr same]
  · rintro ⟨proper, different⟩
    constructor
    · intro download member
      obtain ⟨⟨call, isCall, sameUrl⟩, destination⟩ := mem_trackAll_iff member
      rw [destination, confined_joinPath_iff, sameUrl]
      exact proper call isCall
    · intro one oneMember other otherMember differ same
      obtain ⟨⟨oneCall, isOne, oneUrl⟩, oneDestination⟩ := mem_trackAll_iff oneMember
      obtain ⟨⟨otherCall, isOther, otherUrl⟩, otherDestination⟩ :=
        mem_trackAll_iff otherMember
      have oneProper := (properName_sanitizeFilename_iff manager.table one.url).mpr
        (by rw [oneUrl]; exact proper oneCall isOne)
      have oneComponents : pathComponents (joinPath manager.baseDir
          (sanitizeFilename manager.table one.url)) = pathComponents manager.baseDir ++
            [.normal (sanitizeFilename manager.table one.url).toList] :=
        (pathComponents_joinPath_iff (slash_notMem_sanitizeFilename one.url)).mpr
          ⟨oneProper, rfl⟩
      rw [oneDestination, oneComponents, otherDestination, eq_comm,
        pathComponents_joinPath_iff (slash_notMem_sanitizeFilename other.url)] at same
      have sameName : sanitizeFilename manager.table one.url =
          sanitizeFilename manager.table other.url := String.toList_inj.mp same.2
      rw [sanitizeFilename_eq_iff] at sameName
      rw [oneUrl, otherUrl] at differ sameName
      exact different oneCall isOne otherCall isOther differ sameName

end Runs

/-- A job without arguments is tracked with the empty URL and saved as the base
directory itself; `a/b` and `a_b` are saved in one file. -/
theorem destinations_unsound :
    let manager := new .asciiOnly "/srv/downloads"
    let job := Job.new 1 0 "curl" "" "curl" [] .normal
    let other := Job.new 2 0 "curl" "" "curl" [] .normal
    (manager.trackAll [(job, "")]).map DownloadProgress.destination =
        ["/srv/downloads/"] ∧
      ¬ manager.DestinationsSound [(job, "")] ∧
      (manager.trackAll [(job, "a/b"), (other, "a_b")]).map
          DownloadProgress.destination = ["/srv/downloads/a_b", "/srv/downloads/a_b"] ∧
        ¬ manager.DestinationsSound [(job, "a/b"), (other, "a_b")] := by
  intro manager job other
  have first : (manager.trackAll [(job, "")]).map DownloadProgress.destination =
      ["/srv/downloads/"] := by decide +kernel
  have second : (manager.trackAll [(job, "a/b"), (other, "a_b")]).map
      DownloadProgress.destination = ["/srv/downloads/a_b", "/srv/downloads/a_b"] := by
    decide +kernel
  refine ⟨first, ?_, second, ?_⟩
  · rintro ⟨confined, -⟩
    obtain ⟨download, member, -⟩ :=
      exists_mem_trackAll manager (List.mem_singleton_self (job, ""))
    have place : download.destination = "/srv/downloads/" := by
      have placed := List.mem_map_of_mem (f := DownloadProgress.destination) member
      rwa [first, List.mem_singleton] at placed
    have outside : pathParent "/srv/downloads/" ≠ some (pathComponents "/srv/downloads") := by
      decide +kernel
    have inBase := (confined download member).1
    rw [place] at inBase
    exact outside inBase
  · rintro ⟨-, distinct⟩
    have isOne : (job, "a/b") ∈ [(job, "a/b"), (other, "a_b")] := List.mem_cons_self
    have isTwo : (other, "a_b") ∈ [(job, "a/b"), (other, "a_b")] :=
      List.mem_cons_of_mem _ List.mem_cons_self
    obtain ⟨one, oneMember, oneUrl⟩ := exists_mem_trackAll manager isOne
    obtain ⟨two, twoMember, twoUrl⟩ := exists_mem_trackAll manager isTwo
    apply distinct one oneMember two twoMember
    · rw [oneUrl, twoUrl]
      decide
    · have onePlace := List.mem_map_of_mem (f := DownloadProgress.destination) oneMember
      have twoPlace := List.mem_map_of_mem (f := DownloadProgress.destination) twoMember
      rw [second] at onePlace twoPlace
      simp only [List.mem_cons, List.not_mem_nil, or_false, or_self] at onePlace twoPlace
      rw [onePlace, twoPlace]

end DownloadManager

end NetGuardian
