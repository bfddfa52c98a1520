import NetGuardian.Files
import NetGuardian.Foundation.PlainText
import Mathlib.Data.List.AList
import Mathlib.Data.List.Sort
import Mathlib.Data.String.Basic

/-!
# The registry of community plugins

The index of known plugins, the version test, and the registry with its storage
file.  There are two constructors: `new` starts with nothing installed, and
`with_storage_path` starts with what the file says.
-/

namespace NetGuardian

structure CompatibilityInfo where
  apiVersion : String
  minApiVersion : String
deriving DecidableEq

structure CommunityPluginManifest where
  name : String
  version : String
  description : String
  author : String
  repository : Option String
  license : Option String
  tags : List String
  binary : String
  defaultArgs : List String
  supportsResume : Bool
  homepage : Option String
  compatibility : Option CompatibilityInfo
  checksum : Option String
  dependencies : List String
deriving DecidableEq

structure InstalledPluginEntry where
  manifest : CommunityPluginManifest
  installedAt : String
deriving DecidableEq

/-- The numeric components of a version; a component that is no `u32` is left
out. -/
def versionParts (version : String) : List Nat :=
  (version.toList.splitOn '.').filterMap (PlainText.parseUnsigned (2 ^ 32))

/-- The first difference decides, then the number of components. -/
def versionPartsLt : List Nat → List Nat → Bool
  | [], right => decide (right ≠ [])
  | _ :: _, [] => false
  | left :: lefts, right :: rights =>
      if left ≠ right then decide (left < right)
      else versionPartsLt lefts rights

def versionLt (left right : String) : Bool :=
  versionPartsLt (versionParts left) (versionParts right)

def currentApiVersion : String := "0.1.0"

namespace CommunityPluginManifest

def isCompatible (manifest : CommunityPluginManifest) : Except String Unit :=
  match manifest.compatibility with
  | none => .ok ()
  | some compat =>
      if versionLt currentApiVersion compat.minApiVersion then
        .error ("plugin '" ++ manifest.name ++ "' requires API version >= " ++
          compat.minApiVersion ++ ", but current is " ++ currentApiVersion)
      else if versionLt compat.apiVersion currentApiVersion then
        .error ("plugin '" ++ manifest.name ++
          "' only supports API version <= " ++ compat.apiVersion ++
          ", but current is " ++ currentApiVersion)
      else .ok ()

end CommunityPluginManifest

def builtinIndex : List CommunityPluginManifest :=
  [ { name := "rsync"
      version := "1.0.0"
      description :=
        "Fast file synchronization over SSH with retry and resume support"
      author := "NetGuardian Community"
      repository := some "https://github.com/rsync/rsync"
      license := some "GPL-3.0"
      tags := ["sync", "backup", "ssh", "transfer"]
      binary := "rsync"
      defaultArgs := ["-avz", "--progress", "--partial"]
      supportsResume := true
      homepage := some "https://rsync.samba.org"
      compatibility := some ⟨"0.1.0", "0.1.0"⟩
      checksum := none
      dependencies := [] },
    { name := "docker"
      version := "1.0.0"
      description :=
        "Container image pull, push and management with retry support"
      author := "NetGuardian Community"
      repository := some "https://github.com/docker/cli"
      license := some "Apache-2.0"
      tags := ["container", "docker", "images", "deploy"]
      binary := "docker"
      defaultArgs := ["--log-level", "warn"]
      supportsResume := false
      homepage := some "https://docker.com"
      compatibility := some ⟨"0.1.0", "0.1.0"⟩
      checksum := none
      dependencies := [] },
    { name := "pip"
      version := "1.0.0"
      description :=
        "Python package installer with retry for unreliable networks"
      author := "NetGuardian Community"
      repository := some "https://github.com/pypa/pip"
      license := some "MIT"
      tags := ["python", "package", "pypi", "install"]
      binary := "pip3"
      defaultArgs := ["--timeout", "30"]
      supportsResume := false
      homepage := some "https://pip.pypa.io"
      compatibility := some ⟨"0.1.0", "0.1.0"⟩
      checksum := none
      dependencies := [] },
    { name := "npm"
      version := "1.0.0"
      description := "Node.js package manager with retry and fetch resilience"
      author := "NetGuardian Community"
      repository := some "https://github.com/npm/cli"
      license := some "BlueOak-1.0.0"
      tags := ["node", "javascript", "package", "install"]
      binary := "npm"
      defaultArgs := ["--loglevel", "warn"]
      supportsResume := false
      homepage := some "https://npmjs.com"
      compatibility := some ⟨"0.1.0", "0.1.0"⟩
      checksum := none
      dependencies := [] },
    { name := "apt"
      version := "1.0.0"
      description :=
        "Debian package manager with smart retry for apt-get operations"
      author := "NetGuardian Community"
      repository := some "https://salsa.debian.org/apt-team/apt"
      license := some "GPL-2.0"
      tags := ["debian", "package", "apt", "install"]
      binary := "apt-get"
      defaultArgs := ["--option", "Acquire::Retries=3"]
      supportsResume := false
      homepage := none
      compatibility := some ⟨"0.1.0", "0.1.0"⟩
      checksum := none
      dependencies := [] },
    { name := "ffmpeg"
      version := "1.0.0"
      description :=
        "Media processing with download resume for streaming sources"
      author := "NetGuardian Community"
      repository := some "https://github.com/FFmpeg/FFmpeg"
      license := some "LGPL-2.1"
      tags := ["media", "video", "audio", "convert"]
      binary := "ffmpeg"
      defaultArgs := ["-y", "-stats"]
      supportsResume := true
      homepage := some "https://ffmpeg.org"
      compatibility := some ⟨"0.1.0", "0.1.0"⟩
      checksum := none
      dependencies := [] },
    { name := "ssh"
      version := "1.0.0"
      description :=
        "Secure Shell connections with automatic retry and fallback"
      author := "NetGuardian Community"
      repository := some "https://github.com/openssh/openssh-portable"
      license := some "BSD-2-Clause"
      tags := ["ssh", "remote", "shell", "tunnel"]
      binary := "ssh"
      defaultArgs := ["-o", "ConnectTimeout=10", "-o", "ServerAliveInterval=5"]
      supportsResume := false
      homepage := some "https://openssh.com"
      compatibility := some ⟨"0.1.0", "0.1.0"⟩
      checksum := none
      dependencies := [] },
    { name := "ansible"
      version := "1.0.0"
      description := "IT automation with resilient playbook execution and retry"
      author := "NetGuardian Community"
      repository := some "https://github.com/ansible/ansible"
      license := some "GPL-3.0"
      tags := ["automation", "devops", "config", "deploy"]
      binary := "ansible-playbook"
      defaultArgs := ["--retry-files-enabled", "no"]
      supportsResume := false
      homepage := some "https://ansible.com"
      compatibility := some ⟨"0.1.0", "0.1.0"⟩
      checksum := none
      dependencies := [] } ]

structure CommunityPluginRegistry where
  index : List CommunityPluginManifest
  installed : AList fun _ : String => InstalledPluginEntry
  indexUrl : String
  storagePath : Path

namespace CommunityPluginRegistry

def defaultIndexUrl : String :=
  "https://raw.githubusercontent.com/netguardian/plugins/main/index.json"

def storageFile : Path := "community_plugins.json"

def new : CommunityPluginRegistry where
  index := builtinIndex
  installed := ∅
  indexUrl := defaultIndexUrl
  storagePath := storageFile

/-- A file that is absent, unreadable or malformed counts as empty. -/
def loadInstalled (serde : Serde (List InstalledPluginEntry)) (disk : Disk)
    (readable : Bool) (path : Path) :
    AList fun _ : String => InstalledPluginEntry :=
  match serde.load disk readable path with
  | some entries =>
      entries.foldl (fun map entry => map.insert entry.manifest.name entry) ∅
  | none => ∅

def withStoragePath (serde : Serde (List InstalledPluginEntry)) (disk : Disk)
    (readable : Bool) (path : Path) : CommunityPluginRegistry where
  index := builtinIndex
  installed := loadInstalled serde disk readable path
  indexUrl := defaultIndexUrl
  storagePath := path

/-- The values of the map, in the order of the entries. -/
def values (registry : CommunityPluginRegistry) : List InstalledPluginEntry :=
  registry.installed.entries.map Sigma.snd

/-- What the environment decides during one call: the clock, the order in which
the map happens to be iterated, and how the write ends. -/
structure Surroundings where
  now : String
  order : IterationOrder InstalledPluginEntry
  outcome : WriteOutcome

/-- The file is rewritten wholesale; a failure is dropped. -/
def saveInstalled (serde : Serde (List InstalledPluginEntry))
    (registry : CommunityPluginRegistry) (disk : Disk)
    (around : Surroundings) : Disk :=
  (disk.writeText registry.storagePath
    (serde.toStringPretty (around.order.iterate registry.values))
      around.outcome).disk

def alreadyInstalled (name : String) : String :=
  "plugin '" ++ name ++ "' is already installed"

def notFound (name : String) : String :=
  "plugin '" ++ name ++ "' not found in community index"

def install (serde : Serde (List InstalledPluginEntry))
    (registry : CommunityPluginRegistry) (disk : Disk) (around : Surroundings)
    (name : String) :
    CommunityPluginRegistry × Disk × Except String CommunityPluginManifest :=
  if registry.installed.lookup name ≠ none then
    (registry, disk, .error (alreadyInstalled name))
  else
    match registry.index.find? fun manifest => manifest.name = name with
    | none => (registry, disk, .error (notFound name))
    | some manifest =>
        match manifest.isCompatible with
        | .error error => (registry, disk, .error error)
        | .ok () =>
            let grown := { registry with
              installed := registry.installed.insert name
                ⟨manifest, around.now⟩ }
            (grown, grown.saveInstalled serde disk around, .ok manifest)

def remove (serde : Serde (List InstalledPluginEntry))
    (registry : CommunityPluginRegistry) (disk : Disk) (around : Surroundings)
    (name : String) : CommunityPluginRegistry × Disk × Bool :=
  if registry.installed.lookup name ≠ none then
    let shrunk := { registry with installed := registry.installed.erase name }
    (shrunk, shrunk.saveInstalled serde disk around, true)
  else (registry, disk, false)

/-- Sorted by name. -/
def listInstalled (registry : CommunityPluginRegistry)
    (around : Surroundings) : List InstalledPluginEntry :=
  (around.order.iterate registry.values).insertionSort fun left right =>
    left.manifest.name ≤ right.manifest.name

def info (registry : CommunityPluginRegistry) (name : String) :
    Option CommunityPluginManifest :=
  registry.index.find? fun manifest => manifest.name = name

def isInstalled (registry : CommunityPluginRegistry) (name : String) : Bool :=
  (registry.installed.lookup name).isSome

end CommunityPluginRegistry

/-- Every plugin of the built-in index passes the version test. -/
theorem builtinIndex_compatible :
    ∀ manifest ∈ builtinIndex, manifest.isCompatible = .ok () := by
  have current : ∀ manifest ∈ builtinIndex,
      manifest.compatibility = some ⟨currentApiVersion, currentApiVersion⟩ := by
    decide
  have notBelow : versionLt currentApiVersion currentApiVersion = false := by
    decide
  intro manifest member
  rw [CommunityPluginManifest.isCompatible, current manifest member]
  simp [notBelow]

end NetGuardian
