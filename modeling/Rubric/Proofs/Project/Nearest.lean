/-
  Rubric.Proofs.Project.Nearest

  A project has one configuration, wherever in it a run starts.

  The settings of a run are those of the nearest directory, at or above the one
  it starts in, that holds a settings file. `IsNearest` says this of the names of
  directories, while the search goes through texts that may be spelled with
  slashes in a row, which a host is not to mind (`Host.FollowsNames`). In three
  steps:

    * `firstFile_ancestors`: the search ends at the settings file of the nearest
      directory, under a path that the start begins with, or finds none;
    * `resolve_outside`, `resolve_inside`: the result is made of flags and what
      the host reads there (`fromFile`), and nothing above it is looked at;
    * `squeezed_fromFile`, `settingsFile_eq`: how the directory is spelled shows in
      the paths of the result, and in nothing else.

  `Combines` says of every setting where it comes from, and
  `nearest_project_decides` puts all this together.
-/
import Mathlib.Data.List.Infix
import Rubric.Project.Config
import Rubric.Proofs.FileTree

namespace Rubric

namespace Config

open Rubric.Path (squeeze IsPlain IsTrimmed names)

/-! ## The nearest project -/

/-- The path of the settings file of a directory in its plain spelling. -/
def settingsPath (dir : List String) : String := FileTree.pathOf (dir ++ [settingsName])

/-- Whether the directory with these names holds a settings file. -/
def HoldsSettings (host : Host Id) (dir : List String) : Prop :=
  (host.isFile (settingsPath dir)).run = true

instance (host : Host Id) (dir : List String) : Decidable (HoldsSettings host dir) :=
  inferInstanceAs (Decidable (_ = _))

/-- The nearest directory, at or above the one with these names, that holds a settings
    file. -/
structure IsNearest (host : Host Id) (here dir : List String) : Prop where
  above : dir <+: here
  holds : HoldsSettings host dir
  longest : ∀ other, other <+: here → HoldsSettings host other → other <+: dir

variable {host : Host Id} {here dir other : List String}

theorem IsNearest.unique (h : IsNearest host here dir) (hother : IsNearest host here other) :
    dir = other :=
  (hother.longest dir h.above h.holds).eq_of_length_le
    (h.longest other hother.above hother.holds).length_le

theorem IsNearest.iff_eq (h : IsNearest host here dir) : IsNearest host here other ↔ other = dir :=
  ⟨fun hother => hother.unique h, fun heq => heq ▸ h⟩

theorem HoldsSettings.isNearest (h : HoldsSettings host here) : IsNearest host here here :=
  ⟨List.prefix_rfl, h, fun _ hother _ => hother⟩

/-- A directory without a settings file is in the project of the one above it. -/
theorem isNearest_dropLast (hnone : ¬ HoldsSettings host here) :
    IsNearest host here dir ↔ here ≠ [] ∧ IsNearest host here.dropLast dir := by
  induction here using List.reverseRecOn with
  | nil =>
    refine ⟨fun h => ?_, fun h => absurd rfl h.1⟩
    rw [List.prefix_nil.mp h.above] at h
    exact absurd h.holds hnone
  | append_singleton here name _ =>
    have hproper : ∀ d, HoldsSettings host d → (d <+: here ++ [name] ↔ d <+: here) := by
      intro d hd
      rw [List.prefix_concat_iff, or_iff_right]
      rintro rfl
      exact hnone hd
    rw [List.dropLast_concat]
    constructor
    · intro h
      exact ⟨by simp, (hproper dir h.holds).mp h.above, h.holds,
        fun d hd hholds => h.longest d ((hproper d hholds).mpr hd) hholds⟩
    · rintro ⟨-, h⟩
      exact ⟨(hproper dir h.holds).mpr h.above, h.holds,
        fun d hd hholds => h.longest d ((hproper d hholds).mp hd) hholds⟩

/-! ## Its settings file -/

theorem isName_settingsName : Path.IsName settingsName := by decide +kernel

/-- The settings file of a directory is squeezed to its plain spelling. -/
theorem squeeze_settingsFile {base : String} (h : IsPlain base) :
    squeeze (Path.join base settingsName) = settingsPath (names base) := by
  obtain ⟨hplain, htrim, hnames⟩ := h.join isName_settingsName
  rw [hplain.squeeze_eq htrim, hnames, settingsPath]

/-- A directory without slashes in a row has its settings file in the plain spelling. -/
theorem settingsFile_eq {base : String} (h : IsPlain base) (hbase : squeeze base = base) :
    Path.join base settingsName = settingsPath (names base) := by
  have hname : squeeze settingsName = settingsName := by decide +kernel
  rw [← squeeze_settingsFile h, Path.squeeze_join, hbase, hname]

/-- The path before the name of a settings file is one of its directory. -/
theorem exists_directory {base : String} (h : IsPlain base) :
    ∃ above, Path.parent? (Path.join base settingsName) = some above ∧
      squeeze above = FileTree.pathOf (names base) := by
  obtain ⟨hplain, -, hnames⟩ := h.join isName_settingsName
  obtain ⟨above, habove, hspec⟩ := hplain.exists_above (by simp [hnames])
  refine ⟨above, habove, ?_⟩
  rw [hspec.plain.squeeze_eq hspec.isTrimmed, hspec.names_eq, hnames, List.dropLast_concat]

/-- A host has a settings file under its plain spelling too. -/
theorem isFile_settingsFile (hhost : host.FollowsNames) {base : String} (h : IsPlain base) :
    host.isFile (Path.join base settingsName) = host.isFile (settingsPath (names base)) := by
  obtain ⟨hplain, htrim, -⟩ := h.join isName_settingsName
  rw [← hhost.isFile_squeeze _ hplain htrim, squeeze_settingsFile h]

theorem readText_settingsFile (hhost : host.FollowsNames) {base : String} (h : IsPlain base) :
    host.readText (Path.join base settingsName) = host.readText (settingsPath (names base)) := by
  obtain ⟨hplain, htrim, -⟩ := h.join isName_settingsName
  rw [← hhost.readText_squeeze _ hplain htrim, squeeze_settingsFile h]

/-! ## The search -/

/-- The search for a file, one path after the other. -/
theorem firstFile_cons (host : Host Id) (path : String) (rest : List String) :
    (firstFile host (path :: rest)).run =
      if (host.isFile path).run = true then some path else (firstFile host rest).run := by
  rw [firstFile]
  cases hfile : (host.isFile path).run <;> simp [hfile]

/-- The search finds the settings file of the nearest project, under a path that begins like
    the one it starts from. -/
theorem firstFile_ancestors (hhost : host.FollowsNames) {path : String} (h : IsPlain path)
    {fuel : Nat} (hfuel : (names path).length < fuel) :
    ((∀ dir, ¬ IsNearest host (names path) dir) →
      (firstFile host ((ancestors fuel path).map fun dir => Path.join dir settingsName)).run =
        none) ∧
    ∀ dir, IsNearest host (names path) dir → ∃ base, IsPlain base ∧ names base = dir ∧
      base.toList <+: path.toList ∧
      (firstFile host ((ancestors fuel path).map fun dir => Path.join dir settingsName)).run =
        some (Path.join base settingsName) := by
  induction fuel generalizing path with
  | zero => omega
  | succ fuel ih =>
    rw [ancestors, List.map_cons, firstFile_cons, isFile_settingsFile hhost h]
    by_cases hholds : HoldsSettings host (names path)
    · rw [if_pos (show (host.isFile (settingsPath (names path))).run = true from hholds)]
      refine ⟨fun hnone => absurd hholds.isNearest (hnone _), fun dir hdir => ?_⟩
      exact ⟨path, h, hdir.iff_eq.mp hholds.isNearest, List.prefix_rfl, rfl⟩
    · rw [if_neg (show ¬ (host.isFile (settingsPath (names path))).run = true from hholds)]
      simp only [isNearest_dropLast hholds]
      by_cases hroot : names path = []
      · rw [h.parent?_eq_none hroot]
        exact ⟨fun _ => rfl, fun dir hdir => absurd hroot hdir.1⟩
      · obtain ⟨above, hparent, habove⟩ := h.exists_above hroot
        have hfewer : (names above).length < fuel := by
          have hlength := List.length_pos_iff.mpr hroot
          rw [habove.names_eq, List.length_dropLast]
          omega
        obtain ⟨hnone, hsome⟩ := ih habove.plain hfewer
        rw [habove.names_eq] at hnone hsome
        rw [hparent]
        refine ⟨fun hno => hnone fun dir hdir => hno dir ⟨hroot, hdir⟩, fun dir hdir => ?_⟩
        obtain ⟨base, hbase, hnames, hbegin, hfirst⟩ := hsome dir hdir.2
        exact ⟨base, hbase, hnames, hbegin.trans (Path.isPrefix_of_parent? hparent), hfirst⟩

/-! ## What a resolved configuration says -/

/-- The template file of the user, where there is one. -/
def userFile (host : Host Id) : Option String :=
  (host.settingsDirectory.map fun dir =>
    Path.join (Path.join dir "doc-structure-lint") "templates.yaml").filter
      fun path => (host.isFile path).run

theorem userTemplates_run (host : Host Id) : (userTemplates host).run = userFile host := by
  rw [userTemplates, userFile]
  cases host.settingsDirectory with
  | none => rfl
  | some dir =>
    rw [Option.map_some, Option.filter_some]
    exact firstFile_cons host _ []

/-- Every setting of a configuration comes from the flags, else from the settings of the
    project, else from the template file of the user or a default. -/
structure Combines (flags : Flags) (settings : Project.Settings) (project : Option (List String))
    (user : Option String) (c : Config) : Prop where
  template : c.template = flags.template.or settings.template
  timeout : c.timeout = (flags.timeoutSeconds.or settings.timeoutSeconds).map Duration.ofSeconds
  logLevel : c.logLevel = flags.logLevel
  flagTemplates : ∀ path, flags.templatePath = some path → c.templatePath = some path
  /-- A path of the project is taken from its directory, unless it needs none. -/
  projectTemplates : flags.templatePath = none → ∀ path, settings.templatePath = some path →
    if Location.isUrl path ∨ Path.isAbsolute path then c.templatePath = some path
    else ∃ dir ∈ project, ∃ base, squeeze base = FileTree.pathOf dir ∧
      c.templatePath = some (Path.join base path)
  userTemplates : flags.templatePath = none → settings.templatePath = none →
    c.templatePath = user
  checks : c.modelServer.isSome ↔
    flags.endpoint.isSome ∨ flags.model.isSome ∨ settings.instructions.isSome
  endpoint : ∀ server ∈ c.modelServer, server.endpoint =
    (flags.endpoint.or (settings.instructions.bind (·.endpoint))).getD defaultEndpoint
  model : ∀ server ∈ c.modelServer, server.model =
    (flags.model.or (settings.instructions.bind (·.model))).getD defaultModel
  settingsFile : c.settingsFile.map squeeze = project.map settingsPath

theorem chooseServer_isSome (flags : Flags) (settings : Option Project.InstructionSettings) :
    (chooseServer flags settings).isSome ↔
      flags.endpoint.isSome ∨ flags.model.isSome ∨ settings.isSome := by
  rw [chooseServer]
  split
  · next h => simpa [or_assoc] using h
  · next h => simpa [or_assoc] using h

theorem chooseServer_eq {flags : Flags} {settings : Option Project.InstructionSettings}
    {server : ModelServer} (h : server ∈ chooseServer flags settings) :
    server.endpoint = (flags.endpoint.or (settings.bind (·.endpoint))).getD defaultEndpoint ∧
      server.model = (flags.model.or (settings.bind (·.model))).getD defaultModel := by
  rw [chooseServer] at h
  split at h
  · obtain rfl := Option.some.inj h
    cases settings <;> simp
  · cases h

/-- A configuration that is put together in a project, or in none, says what it is to say. -/
theorem combines_merge (flags : Flags) (found : Option (String × Project.Settings))
    {project : Option (List String)} (user : Option String)
    (hfile : found.map (fun f => squeeze f.1) = project.map settingsPath)
    (hdir : ∀ f ∈ found, ∃ dir ∈ project, ∃ base, Path.parent? f.1 = some base ∧
      squeeze base = FileTree.pathOf dir) :
    Combines flags ((found.map Prod.snd).getD {}) project user (merge flags found user) where
  template := by simp [merge]
  timeout := by simp [merge]
  logLevel := rfl
  flagTemplates := fun path hflag => by simp [merge, hflag]
  projectTemplates := fun hflag path hpath => by
    cases found with
    | none => cases hpath
    | some f =>
      obtain ⟨dir, hproject, base, hparent, hbase⟩ := hdir f rfl
      have hown : f.2.templatePath = some path := hpath
      have hmerge : (merge flags (some f) user).templatePath =
          some (relativeTo (some base) path) := by
        simp [merge, hflag, hown, hparent]
      rw [hmerge]
      split
      · next hkeep => rw [relativeTo, if_pos (by simpa using hkeep)]
      · next hkeep =>
        exact ⟨dir, hproject, base, hbase, by rw [relativeTo, if_neg (by simpa using hkeep)]⟩
  userTemplates := fun hflag hpath => by simp [merge, hflag, hpath]
  checks := chooseServer_isSome flags _
  endpoint := fun server hserver => (chooseServer_eq hserver).1
  model := fun server hserver => (chooseServer_eq hserver).2
  settingsFile := by rw [← hfile, merge, Option.map_map]; rfl

/-! ## The spelling of a result -/

/-- The result with its paths, and the texts of its failure, squeezed. -/
def squeezed : Except Failure Config → Except Failure Config
  | .ok c => .ok { c with templatePath := c.templatePath.map squeeze,
                          settingsFile := c.settingsFile.map squeeze }
  | .error failure => .error { failure with contexts := failure.contexts.map squeeze }

/-- What a run gets from a settings file, once the host has read it. -/
def fromFile (flags : Flags) (user : Option String) (file : String) :
    Except FileFault String → Except Failure Config
  | .error fault => .error ⟨[s!"Failed to read project config: {file}"], .file fault⟩
  | .ok text =>
    (inContext s!"Failed to parse project config: {file}" (Project.Settings.ofText text)).map
      fun settings => merge flags (some (file, settings)) user

/-- Texts that end in paths are squeezed alike where the paths are. -/
theorem squeeze_append_congr {before file other : String}
    (hlast : before.toList.getLast? ≠ some '/') (h : squeeze file = squeeze other) :
    squeeze (before ++ file) = squeeze (before ++ other) := by
  have hchars : Path.squeezeChars file.toList = Path.squeezeChars other.toList := by
    rw [← Path.toList_squeeze, ← Path.toList_squeeze, h]
  apply String.toList_injective
  rw [Path.toList_squeeze, Path.toList_squeeze, String.toList_append, String.toList_append,
    Path.squeezeChars_append fun hslash => absurd hslash hlast,
    Path.squeezeChars_append fun hslash => absurd hslash hlast, hchars]

/-- Settings files that differ in slashes in a row give results that differ in these. -/
theorem squeezed_fromFile (flags : Flags) (user : Option String) {file other base above : String}
    (read : Except FileFault String) (hfile : squeeze file = squeeze other)
    (hbase : Path.parent? file = some base) (habove : Path.parent? other = some above)
    (hdir : squeeze base = squeeze above) :
    squeezed (fromFile flags user file read) = squeezed (fromFile flags user other read) := by
  cases read with
  | error fault =>
    have hcontext : squeeze s!"Failed to read project config: {file}" =
        squeeze s!"Failed to read project config: {other}" :=
      squeeze_append_congr (by decide) hfile
    simp only [fromFile, squeezed, List.map_cons, List.map_nil, hcontext]
  | ok text =>
    rw [fromFile, fromFile]
    cases Project.Settings.ofText text with
    | error failure =>
      have hcontext : squeeze s!"Failed to parse project config: {file}" =
          squeeze s!"Failed to parse project config: {other}" :=
        squeeze_append_congr (by decide) hfile
      simp only [inContext, Failure.inContext, Except.map, squeezed, List.map_cons, hcontext]
    | ok settings =>
      have hpath : ∀ path, squeeze (relativeTo (some base) path) =
          squeeze (relativeTo (some above) path) := by
        intro path
        rw [relativeTo, relativeTo]
        split
        · rfl
        · rw [Path.squeeze_join, Path.squeeze_join, hdir]
      have htemplates : (merge flags (some (file, settings)) user).templatePath.map squeeze =
          (merge flags (some (other, settings)) user).templatePath.map squeeze := by
        simp only [merge, Option.map_some, Option.getD_some, Option.bind_some, hbase, habove]
        cases flags.templatePath <;> cases settings.templatePath <;> simp [hpath]
      simp only [inContext, Except.map, squeezed, htemplates]
      simp [merge, hfile]

/-! ## Where a run starts -/

section Start

variable {flags : Flags} {start : String}

theorem resolve_of_none (h : (firstFile host (candidates start)).run = none) :
    (resolve host flags start).run = .ok (merge flags none (userFile host)) := by
  rw [← userTemplates_run]
  simp [resolve, discover, h]

theorem resolve_of_file {file : String} (h : (firstFile host (candidates start)).run = some file) :
    (resolve host flags start).run =
      fromFile flags (userFile host) file (host.readText file).run := by
  have hsettings : ∀ text, (host.readText file).run = .ok text →
      (discover host start).run = (inContext s!"Failed to parse project config: {file}"
        (Project.Settings.ofText text)).map fun settings => some (file, settings) := by
    intro text htext
    simp only [discover, loadSettings, Id.run_bind, Id.run_pure, h, htext]
  rw [← userTemplates_run]
  cases hread : (host.readText file).run with
  | error fault => simp [resolve, discover, loadSettings, h, hread, fromFile, Except.map]
  | ok text =>
    simp only [resolve, Id.run_bind, hsettings text hread, fromFile]
    cases inContext _ (Project.Settings.ofText text) <;> rfl

/-- There are no more names in a path than characters. -/
theorem length_names_lt (h : IsPlain start) : (names start).length < start.length + 1 := by
  obtain ⟨parts, hparts⟩ := h.exists_parts
  have hsaid := Path.length_said_le parts
  rw [← hparts.text, String.length_toList] at hsaid
  rw [hparts.names_eq, List.length_map]
  omega

/-- Outside of projects a run has its flags and the template file of the user. -/
theorem resolve_outside (hhost : host.FollowsNames) (h : IsPlain start)
    (hnone : ∀ dir, ¬ IsNearest host (names start) dir) :
    (resolve host flags start).run = .ok (merge flags none (userFile host)) :=
  resolve_of_none ((firstFile_ancestors hhost h (length_names_lt h)).1 hnone)

/-- In a project a run has what is made of the nearest settings file, under a path that begins
    like the one it starts from. -/
theorem resolve_inside (hhost : host.FollowsNames) (h : IsPlain start)
    (hdir : IsNearest host (names start) dir) :
    ∃ base, IsPlain base ∧ names base = dir ∧ base.toList <+: start.toList ∧
      (resolve host flags start).run = fromFile flags (userFile host)
        (Path.join base settingsName) (host.readText (settingsPath dir)).run := by
  obtain ⟨base, hbase, rfl, hbegin, hfirst⟩ :=
    (firstFile_ancestors hhost h (length_names_lt h)).2 dir hdir
  refine ⟨base, hbase, rfl, hbegin, ?_⟩
  rw [resolve_of_file hfirst, readText_settingsFile hhost hbase]

variable {other : String}

/-- Two runs in one project, or in none, differ in how they spell its directory at most. -/
theorem squeezed_resolve_eq (hhost : host.FollowsNames) (h : IsPlain start)
    (hother : IsPlain other)
    (hsame : ∀ dir, IsNearest host (names start) dir ↔ IsNearest host (names other) dir) :
    squeezed (resolve host flags start).run = squeezed (resolve host flags other).run := by
  by_cases hproject : ∃ dir, IsNearest host (names start) dir
  · obtain ⟨dir, hdir⟩ := hproject
    obtain ⟨base, hbase, hnames, -, hresult⟩ := resolve_inside hhost h hdir
    obtain ⟨above, habove, hnames', -, hresult'⟩ :=
      resolve_inside hhost hother ((hsame dir).mp hdir)
    obtain ⟨up, hup, hupNames⟩ := exists_directory hbase
    obtain ⟨up', hup', hupNames'⟩ := exists_directory habove
    rw [hresult, hresult']
    refine squeezed_fromFile flags _ _ ?_ hup hup' ?_
    · rw [squeeze_settingsFile hbase, squeeze_settingsFile habove, hnames, hnames']
    · rw [hupNames, hupNames', hnames, hnames']
  · have hnone := not_exists.mp hproject
    rw [resolve_outside hhost h hnone,
      resolve_outside hhost hother fun dir hdir => hnone dir ((hsame dir).mpr hdir)]

/-- Two runs in one project are the same where they can spell its directory in one way. -/
theorem resolve_eq (hhost : host.FollowsNames) (h : IsPlain start) (hother : IsPlain other)
    (hsame : ∀ dir, IsNearest host (names start) dir ↔ IsNearest host (names other) dir)
    (hspelled : (∃ dir, IsNearest host (names start) dir) →
      squeeze start = start ∧ squeeze other = other) :
    (resolve host flags start).run = (resolve host flags other).run := by
  by_cases hproject : ∃ dir, IsNearest host (names start) dir
  · obtain ⟨hstart, hend⟩ := hspelled hproject
    obtain ⟨dir, hdir⟩ := hproject
    obtain ⟨base, hbase, hnames, hbegin, hresult⟩ := resolve_inside hhost h hdir
    obtain ⟨above, habove, hnames', hbegin', hresult'⟩ :=
      resolve_inside hhost hother ((hsame dir).mp hdir)
    rw [hresult, hresult', settingsFile_eq hbase (Path.squeeze_eq_self_of_isPrefix hstart hbegin),
      settingsFile_eq habove (Path.squeeze_eq_self_of_isPrefix hend hbegin'), hnames, hnames']
  · have hnone := not_exists.mp hproject
    rw [resolve_outside hhost h hnone,
      resolve_outside hhost hother fun dir hdir => hnone dir ((hsame dir).mpr hdir)]

end Start

/-- **A project has one configuration.** Let a host follow names, as that of every tree of files
    does, and let two working directories, written from the root and without dots, have the
    same nearest directory with a settings file, or both have none. Then they get the same
    result, a configuration or a failure, up to slashes in a row in its paths and texts; and the
    very same one where there is no such directory or neither is written with slashes in a row.
    Outside of projects the result is a configuration that combines flags and the template file
    of the user. In a project it is decided by the nearest settings file: a failure that names
    the file where it cannot be read or its text is none of settings, and else a configuration
    that combines flags, these settings and the template file of the user. -/
theorem nearest_project_decides (flags : Flags) :
    (∀ (tree : FileTree) (proc : List String) (user : Option String) (network : Network),
      (tree.host proc user network).FollowsNames) ∧
    ∀ host : Host Id, host.FollowsNames →
      let result := fun start => (resolve host flags start).run
      (∀ here there, IsPlain here → IsPlain there →
        (∀ dir, IsNearest host (names here) dir ↔ IsNearest host (names there) dir) →
        squeezed (result here) = squeezed (result there) ∧
        (((∃ dir, IsNearest host (names here) dir) → squeeze here = here ∧ squeeze there = there) →
          result here = result there)) ∧
      ∀ here, IsPlain here →
        ((∀ dir, ¬ IsNearest host (names here) dir) →
          ∃ c, result here = .ok c ∧ Combines flags {} none (userFile host) c) ∧
        ∀ dir, IsNearest host (names here) dir →
          (∀ fault, (host.readText (settingsPath dir)).run = .error fault →
            ∃ file, squeeze file = settingsPath dir ∧
              result here = .error ⟨[s!"Failed to read project config: {file}"], .file fault⟩) ∧
          ∀ text, (host.readText (settingsPath dir)).run = .ok text →
            (∀ failure, Project.Settings.ofText text = .error failure →
              ∃ file, squeeze file = settingsPath dir ∧ result here =
                .error (failure.inContext s!"Failed to parse project config: {file}")) ∧
            ∀ settings, Project.Settings.ofText text = .ok settings →
              ∃ c, result here = .ok c ∧
                Combines flags settings (some dir) (userFile host) c := by
  refine ⟨fun tree proc user network => tree.host_followsNames proc user network, ?_⟩
  intro host hhost result
  refine ⟨fun here there hhere hthere hsame => ?_, fun here hhere => ⟨fun hnone => ?_, ?_⟩⟩
  · exact ⟨squeezed_resolve_eq hhost hhere hthere hsame, resolve_eq hhost hhere hthere hsame⟩
  · exact ⟨_, resolve_outside hhost hhere hnone,
      combines_merge flags none _ rfl fun f hf => by cases hf⟩
  intro dir hdir
  obtain ⟨base, hbase, rfl, -, hresult⟩ := resolve_inside hhost hhere hdir
  refine ⟨fun fault hread => ?_, fun text hread => ⟨fun failure hfailure => ?_,
    fun settings hsettings => ?_⟩⟩
  · refine ⟨_, squeeze_settingsFile hbase, hresult.trans ?_⟩
    rw [hread, fromFile]
  · refine ⟨_, squeeze_settingsFile hbase, hresult.trans ?_⟩
    rw [hread, fromFile, hfailure]
    rfl
  · obtain ⟨above, habove, hnames⟩ := exists_directory hbase
    refine ⟨_, hresult.trans (by rw [hread, fromFile, hsettings]; rfl), ?_⟩
    refine combines_merge flags (some (Path.join base settingsName, settings)) _ ?_ ?_
    · rw [Option.map_some, squeeze_settingsFile hbase, Option.map_some]
    · rintro f ⟨⟩
      exact ⟨_, rfl, above, habove, hnames⟩

/-- A project in a project: the settings of the outer one are malformed. -/
def nested : FileTree where
  files := [(["x", settingsName], "template = \n"),
    (["x", "a", settingsName], "template = \"t\"\ntemplate_path = \"t.yaml\"\n")]
  directories := [["x", "a", "b"], ["y"]]

/-- The files of `nested` and nothing else. -/
def nestedHost : Host Id := nested.host [] none Network.none

/-- A host on which every path leads to a file that is not text. -/
def unreadable : Host Id :=
  { nestedHost with
    isFile := fun _ => pure true
    readText := fun _ => pure (.error .notText) }

/-- Whether a directory is the nearest one can be seen by a look at every directory on the way. -/
theorem isNearest_of_inits (habove : dir <+: here) (hholds : HoldsSettings host dir)
    (hlongest : ∀ other ∈ here.inits, HoldsSettings host other → other <+: dir) :
    IsNearest host here dir :=
  ⟨habove, hholds, fun other hother => hlongest other ((List.mem_inits _ _).mpr hother)⟩

/-- Both directories of the inner project get its settings, in that of the outer one nothing is
    resolved, in a directory of neither there are only flags, and a settings file that is not
    text is named. -/
theorem nested_projects :
    let result := fun start => (resolve nestedHost {} start).run
    (result "/x/a/b" = result "/x/a/" ∧
      ∃ c, result "/x//a/b" = .ok c ∧
        Combines {} { template := some "t", templatePath := some "t.yaml" } (some ["x", "a"]) none
          c) ∧
    (∃ (failure : Failure) (file : String), squeeze file = "/x/.doc-structure-lint.toml" ∧
      result "/x" = .error (failure.inContext s!"Failed to parse project config: {file}")) ∧
    (∃ c, result "/y" = .ok c ∧ Combines {} {} none none c) ∧
    ∃ file, squeeze file = "/y/.doc-structure-lint.toml" ∧ (resolve unreadable {} "/y").run =
      .error ⟨[s!"Failed to read project config: {file}"], .file .notText⟩ := by
  intro result
  obtain ⟨htree, hall⟩ := nearest_project_decides {}
  obtain ⟨halike, hdecided⟩ := hall nestedHost (htree nested [] none Network.none)
  have hinner : ∀ here ∈ ["/x/a/b", "/x/a/", "/x//a/b"],
      IsPlain here ∧ IsNearest nestedHost (names here) ["x", "a"] := by
    have hlook : ∀ here ∈ ["/x/a/b", "/x/a/", "/x//a/b"], IsPlain here ∧
        ["x", "a"] <+: names here ∧ HoldsSettings nestedHost ["x", "a"] ∧
          ∀ other ∈ (names here).inits, HoldsSettings nestedHost other → other <+: ["x", "a"] := by
      decide +kernel
    intro here hhere
    obtain ⟨hplain, habove, hholds, hlongest⟩ := hlook here hhere
    exact ⟨hplain, isNearest_of_inits habove hholds hlongest⟩
  refine ⟨⟨?_, ?_⟩, ?_, ?_, ?_⟩
  · obtain ⟨hplain, hnearest⟩ := hinner "/x/a/b" (by simp)
    obtain ⟨hplain', hnearest'⟩ := hinner "/x/a/" (by simp)
    refine (halike _ _ hplain hplain' fun dir => ?_).2 fun _ => ?_
    · rw [hnearest.iff_eq, hnearest'.iff_eq]
    · exact ⟨by decide +kernel, by decide +kernel⟩
  · obtain ⟨hplain, hnearest⟩ := hinner "/x//a/b" (by simp)
    exact (((hdecided _ hplain).2 _ hnearest).2 "template = \"t\"\ntemplate_path = \"t.yaml\"\n"
      (by decide +kernel)).2 _ (by decide +kernel)
  · have hholds : HoldsSettings nestedHost (names "/x") := by decide +kernel
    have hpath : settingsPath (names "/x") = "/x/.doc-structure-lint.toml" := by decide +kernel
    have hinside := (((hdecided "/x" (by decide +kernel)).2 _ hholds.isNearest).2 "template = \n"
      (by decide +kernel)).1 ⟨[], .toml none⟩ (by decide +kernel)
    rw [hpath] at hinside
    exact ⟨_, hinside⟩
  · have hnone : ∀ other ∈ (names "/y").inits, ¬ HoldsSettings nestedHost other := by
      decide +kernel
    exact (hdecided "/y" (by decide +kernel)).1 fun dir hdir =>
      hnone dir ((List.mem_inits _ _).mpr hdir.above) hdir.holds
  · obtain ⟨-, hunread⟩ := hall unreadable ⟨fun _ _ _ => rfl, fun _ _ _ => rfl⟩
    have hholds : HoldsSettings unreadable (names "/y") := rfl
    have hpath : settingsPath (names "/y") = "/y/.doc-structure-lint.toml" := by decide +kernel
    have hinside := ((hunread "/y" (by decide +kernel)).2 _ hholds.isNearest).1 _ rfl
    rwa [hpath] at hinside

/-- A configuration keeps the slashes in a row that a working directory is written with. -/
theorem doubled_slash_stays :
    let result := fun start => (resolve nestedHost {} start).run
    IsPlain "/x/a/b" ∧ IsPlain "/x//a/b" ∧
      (∀ dir, IsNearest nestedHost (names "/x/a/b") dir ↔
        IsNearest nestedHost (names "/x//a/b") dir) ∧
      result "/x/a/b" ≠ result "/x//a/b" := by
  intro result
  have hnames : names "/x//a/b" = names "/x/a/b" := by decide +kernel
  refine ⟨by decide +kernel, by decide +kernel, fun dir => by rw [hnames], ?_⟩
  have hplain : ((result "/x/a/b").toOption.bind Config.templatePath) = some "/x/a/t.yaml" := by
    decide +kernel
  have hdoubled : ((result "/x//a/b").toOption.bind Config.templatePath) = some "/x//a/t.yaml" := by
    decide +kernel
  intro heq
  rw [heq, hdoubled] at hplain
  exact absurd hplain (by decide +kernel)

end Config

end Rubric
