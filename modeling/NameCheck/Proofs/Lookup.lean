import NameCheck.Command.Explain
import NameCheck.Proofs.Configuration
import NameCheck.Proofs.Ways

/-!
Which configuration a command uses. A search from a path looks into the directories that the starts of its parts lead to
(`find?_content`), and a path that is not absolute has none above the current directory. So a check of such a path
misses a configuration further up that a check of the same place by its absolute path finds (`nearest?_above`).
-/
namespace NameCheck

open Files (World Directory Content Path resolve)
open Files.Path (leads parts pieces)

/-! ## Places -/

/-- The current directory is given by names of directories. -/
def Files.World.Placed (world : World) : Prop := ∀ name ∈ world.current, Files.IsName name

/-! ## The nearest configuration -/

namespace Config

/-- The content of the configuration file in the directory that names lead to from the root. -/
def fileIn? (root : Directory) (names : List String) : Option Content :=
  match resolve root [] (names.map String.toList ++ [fileName.toList]) with
  | some (.file content) => some content
  | _ => none

/-- The content of the nearest configuration file on the way that names lead from the root, not before the first `least`
of them. Two points count as a name. -/
def nearest? (root : Directory) (least : Nat) (names : List String) : Option Content :=
  (names.inits.reverse.filter fun first => least ≤ first.length).findSome? (fileIn? root)

/-- The names from the root at which a path starts. -/
def startOf (world : World) (path : Path) : List String := if path.isAbsolute then [] else world.current

theorem leads_current {world : World} (placed : world.Placed) :
    (world.current.map String.toList).filter leads = world.current.map String.toList := by
  rw [List.filter_eq_self]
  intro piece member
  obtain ⟨name, inside, rfl⟩ := List.mem_map.mp member
  exact (placed name inside).leads_eq

theorem toList_names (path : Path) : path.names.map String.toList = parts path.toList := by
  simp [Path.names_eq, Function.comp_def]

theorem way_eq (world : World) (path : Path) :
    world.way path = (startOf world path ++ path.names).map String.toList := by
  rw [World.way, startOf, List.map_append, toList_names]
  split <;> rfl

/-- The configuration file of a directory is found by the names that lead to the directory. -/
theorem file?_join (world : World) (path : Path) :
    world.file? (path.join fileName) = fileIn? world.root (startOf world path ++ path.names) := by
  rw [World.file?, World.find?_join_way (by decide), way_eq]
  rfl

/-- A search from a path finds the configuration file that is the nearest on the way of its names. -/
theorem find?_content (world : World) (path : Path) :
    (find? world path).map (·.2) =
      path.names.inits.reverse.findSome? fun names => fileIn? world.root (startOf world path ++ names) := by
  have each : ∀ above : Path, above.isAbsolute = path.isAbsolute →
      ((world.file? (above.join fileName)).map fun content => (above.join fileName, content)).map (·.2) =
        fileIn? world.root (startOf world path ++ (parts above.toList).map String.ofList) := by
    intro above same
    rw [Option.map_map, file?_join, startOf, same, Path.names_eq]
    exact Option.map_id'
  rw [find?, List.map_findSome?, Path.names_eq, List.map_inits, ← List.map_reverse, List.findSome?_map]
  exact Path.findSome?_ancestors path each

theorem filter_inits {α : Type} (first second : List α) :
    (first ++ second).inits.filter (fun start => first.length ≤ start.length) = second.inits.map (first ++ ·) := by
  induction first with
  | nil => simp
  | cons item first ih =>
    have longer : (fun start : List α => decide ((item :: first).length ≤ (item :: start).length)) =
        fun start => decide (first.length ≤ start.length) := by
      funext start
      simp
    rw [List.cons_append, List.inits_cons, List.filter_cons_of_neg (by simp), List.filter_map, Function.comp_def,
      longer, ih, List.map_map]
    rfl

/-- From a path that is not absolute, a search ends at the current directory. -/
theorem find?_relative {world : World} {path : Path} (relative : path.isAbsolute = false) :
    (find? world path).map (·.2) = nearest? world.root world.current.length (world.current ++ path.names) := by
  have base : startOf world path = world.current := by simp [startOf, relative]
  rw [find?_content, base, nearest?, List.filter_reverse, filter_inits, ← List.map_reverse, List.findSome?_map]
  rfl

theorem nearest?_zero (root : Directory) (names : List String) :
    nearest? root 0 names = names.inits.reverse.findSome? (fileIn? root) := by
  simp [nearest?]

/-- From an absolute path, a search goes up to the root. -/
theorem find?_absolute {world : World} {path : Path} (absolute : path.isAbsolute = true) :
    (find? world path).map (·.2) = nearest? world.root 0 path.names := by
  have base : startOf world path = [] := by simp [startOf, absolute]
  rw [find?_content, base, nearest?_zero]
  rfl

/-- A search from the root finds what lies not before the first names, or else what lies before them. -/
theorem nearest?_above (root : Directory) (first second : List String) :
    nearest? root 0 (first ++ second) =
      (nearest? root first.length (first ++ second)).or (nearest? root 0 first.dropLast) := by
  by_cases empty : first = []
  · subst empty
    cases found : nearest? root 0 ([] ++ second) with
    | some content => simp
    | none =>
      -- What lies at the root itself has been looked at.
      have missing : fileIn? root [] = none := by
        rw [nearest?_zero, List.findSome?_eq_none_iff] at found
        exact found [] (by simp)
      simp [nearest?, missing]
  · rw [nearest?_zero, nearest?_zero, nearest?, List.filter_reverse, filter_inits, Path.inits_beyond empty,
      List.reverse_append, List.findSome?_append]

theorem nearest?_length (root : Directory) (names : List String) :
    nearest? root names.length names = fileIn? root names := by
  have only := filter_inits names []
  rw [List.append_nil] at only
  rw [nearest?, List.filter_reverse, only]
  simp

/-! ## The current directory -/

theorem isAbsolute_currentPath (world : World) : world.currentPath.isAbsolute = true := by
  rw [Path.isAbsolute, World.currentPath, String.toList_append]
  rfl

theorem names_currentPath {world : World} (placed : world.Placed) : world.currentPath.names = world.current := by
  have plain : ∀ piece ∈ world.current.map String.toList, '/' ∉ piece := by
    intro piece member
    obtain ⟨name, inside, rfl⟩ := List.mem_map.mp member
    exact (placed name inside).plain
  have chars : world.currentPath.toList = '/' :: Path.glue (world.current.map String.toList) := by
    rw [World.currentPath, String.toList_append, String.toList_intercalate]
    rfl
  rw [Path.names_eq, chars, ← List.nil_append ('/' :: _), Path.parts_slash, Path.parts_nil, List.nil_append,
    Path.parts_glue plain, leads_current placed]
  simp [Function.comp_def]

/-- From an absolute path below the current directory, a search goes up to the root. -/
theorem find?_below {world : World} (placed : world.Placed) (path : Path) :
    (find? world (world.currentPath.join path)).map (·.2) = nearest? world.root 0 (world.current ++ path.names) := by
  have filled : world.currentPath ≠ "" := by
    intro empty
    have absolute := isAbsolute_currentPath world
    rw [empty] at absolute
    cases absolute
  have absolute : (world.currentPath.join path).isAbsolute = true := by
    rw [Path.isAbsolute_join fun empty => absurd empty filled, isAbsolute_currentPath]
  rw [find?_absolute absolute, Path.names_eq, Path.parts_join, List.map_append, ← Path.names_eq,
    names_currentPath placed]
  rfl

/-! ## Settings -/

/-- The settings that come of the content of a configuration file; the defaults if there is none or it is of no use. -/
def settingsOf : Option Content → Settings
  | some (.text text) =>
    match ofText text with
    | .ok loaded => loaded.settings
    | .error _ => {}
  | _ => {}

theorem settings_choose (world : World) (path : Path) :
    (choose world path).result.settings = settingsOf ((find? world path).map (·.2)) := by
  unfold choose
  cases find? world path with
  | none => rfl
  | some found =>
    obtain ⟨file, content⟩ := found
    cases content with
    | unreadable reason => rfl
    | text text =>
      have loads : load file (.text text) = (ofText text).mapError (.invalid file) := rfl
      have settings : settingsOf (some (.text text)) =
          match ofText text with
          | .ok loaded => loaded.settings
          | .error _ => {} := rfl
      rw [Option.map_some, settings]
      dsimp only
      rw [loads]
      cases ofText text <;> rfl

end Config

/-! ## Commands -/

namespace Command

/-- The log of a check that ended tells of a rule that was run. -/
def Check.Ran (outcome : Outcome) (rule : ModuleRule) : Prop :=
  ∃ event, .event event ∈ outcome.notices ∧ event.message = "rule finished" ∧
    ("rule", .text rule.metadata.id) ∈ event.data

/-- A check that analyses files and ends. -/
structure Check.Ends (world : World) (options : CheckOptions) (outcome : Outcome) : Prop where
  formed : ∃ form, Check.format options = .ok form
  asked : ∃ least, Check.threshold options = .ok least
  discovered : ∃ files, Files.discover? world options.path = some files ∧ Check.readable files ≠ []
  outcome : Check.run? world options = some outcome

/-- The explanation of a rule says that the rule is switched off. -/
def Explain.SaysDisabled (world : World) (rule : ModuleRule) : Prop :=
  Report.Piece.coloured .red "disabled" ∈ (Explain.run world rule.metadata.id).output

theorem Explain.mem_page (registry : Registry) (m : Metadata) :
    Report.Piece.coloured .red "disabled" ∈ Explain.page registry m ↔ registry.isEnabled m.id = false := by
  cases enabled : registry.isEnabled m.id with
  | true =>
    have severity : Report.Piece.coloured .red "disabled" ≠
        .coloured (Report.severityColour m.severity) m.severity.name := by
      cases m.severity <;> decide
    have examples : Report.Piece.coloured .red "disabled" ∉ (m.examples.map Explain.examplesPage).getD [] := by
      cases m.examples <;> simp [Explain.examplesPage, Report.Piece.coloured, Report.Piece.plain]
    simp only [Explain.page, Explain.field, enabled, List.mem_append, List.mem_cons, List.not_mem_nil, severity,
      examples]
    simp [Report.Piece.coloured, Report.Piece.plain, Report.Piece.bold]
  | false => simp [Explain.page, Explain.field, enabled]

/-- Only one built-in rule answers to an id. -/
theorem isEnabled_ofSettings (settings : Settings) {rule : ModuleRule} (builtin : rule ∈ builtinRules) :
    (Registry.ofSettings settings).isEnabled rule.metadata.id = true ↔ settings.Enables rule.metadata := by
  have only : (builtinRules.all fun rule => builtinRules.all fun other =>
      !other.metadata.answersTo rule.metadata.id || other.metadata == rule.metadata) = true := by decide
  rw [Registry.isEnabled, entries_ofSettings, List.any_map, List.any_eq_true]
  simp only [Function.comp_def, Bool.and_eq_true, Settings.enabled_entry]
  constructor
  · rintro ⟨other, member, enabled, answers⟩
    have same := List.all_eq_true.mp (List.all_eq_true.mp only rule builtin) other member
    have answers : other.metadata.answersTo rule.metadata.id = true := answers
    rw [answers, Bool.not_true, Bool.false_or, beq_iff_eq] at same
    rw [← same]
    exact enabled
  · intro enabled
    have answers : rule.metadata.answersTo rule.metadata.id = true := by simp [Metadata.answersTo]
    exact ⟨rule, builtin, enabled, answers⟩

theorem Check.other_event {event : Log.Event} (finished : event.message = "rule finished") (told : Log.Event)
    (differs : told.message ≠ "rule finished") : event ≠ told := by
  rintro rfl
  exact differs finished

theorem Check.mem_fileEvents {registry : Registry} {file : Files.SourceFile} {event : Log.Event}
    (finished : event.message = "rule finished") :
    event ∈ Check.fileEvents registry file ↔ ∃ text, file.content = .text text ∧
      ∃ script, Script.read? file.path text = some script ∧
        ∃ entry ∈ registry.entries, entry.enabled = true ∧ Check.ruleEvent script entry = event := by
  have other := Check.other_event finished
  rw [Check.fileEvents]
  cases file.content with
  | unreadable reason => simp [other]
  | text text =>
    simp only [Content.text.injEq, exists_eq_left']
    cases Script.read? file.path text with
    | none => simp
    | some script => simp [Check.scriptEvents, other, and_assoc]

/-- The events of rules in the log of a check that ends are those of its files. -/
theorem Check.Ends.mem_notices {world : World} {options : CheckOptions} {outcome : Outcome}
    (ends : Check.Ends world options outcome) :
    ∃ files, (∃ file ∈ Check.readable files, ∃ script, file.script? = some script) ∧
      ∀ event : Log.Event, event.message = "rule finished" → (.event event ∈ outcome.notices ↔
        ∃ file ∈ files,
          event ∈ Check.fileEvents (Registry.ofSettings (Config.choose world options.path).result.settings) file) := by
  obtain ⟨⟨form, formed⟩, ⟨least, asked⟩, ⟨files, discovered, readable⟩, ended⟩ := ends
  obtain ⟨first, rest, rfl⟩ : ∃ first rest, files = first :: rest :=
    List.exists_cons_of_ne_nil fun empty => readable (by rw [empty]; rfl)
  simp only [Check.run?, formed, asked, discovered, Option.map_eq_some_iff] at ended
  obtain ⟨diagnostics, analysed, rfl⟩ := ended
  obtain ⟨found, answered, -⟩ := Option.map_eq_some_iff.mp analysed
  refine ⟨first :: rest, ?_, fun event finished => ?_⟩
  · obtain ⟨file, member⟩ := List.exists_mem_of_ne_nil _ readable
    refine ⟨file, member, Option.ne_none_iff_exists'.mp fun broken => ?_⟩
    rw [mapM_eq_none_iff.mpr ⟨file, member, congrArg (· >>= _) broken⟩] at answered
    cases answered
  · have other := Check.other_event finished
    have config : .event event ∉ configNotices (Config.choose world options.path) := by
      cases Config.choose world options.path <;> simp [configNotices, configEvent?, other]
    have files : event ≠ Check.discoveredEvent options (first :: rest) := other _ (by simp [Check.discoveredEvent])
    simp [config, files]

/-- A check that analyses files runs the rules that its settings enable. -/
theorem Check.Ends.ran_iff {world : World} {options : CheckOptions} {outcome : Outcome}
    (ends : Check.Ends world options outcome) {rule : ModuleRule} (builtin : rule ∈ builtinRules) :
    Check.Ran outcome rule ↔ (Config.choose world options.path).result.settings.Enables rule.metadata := by
  obtain ⟨files, ⟨file, member, script, read⟩, told⟩ := ends.mem_notices
  constructor
  · rintro ⟨event, noticed, finished, named⟩
    obtain ⟨file, -, member⟩ := (told event finished).mp noticed
    obtain ⟨text, -, script, -, entry, inside, enabled, rfl⟩ := (Check.mem_fileEvents finished).mp member
    have same : rule.metadata.id = entry.rule.metadata.id := by simpa [Check.ruleEvent] using named
    rw [← isEnabled_ofSettings _ builtin, Registry.isEnabled, List.any_eq_true]
    exact ⟨entry, inside, by simp [enabled, Metadata.answersTo, same]⟩
  · intro enabled
    obtain ⟨entry, inside, on, is⟩ : ∃ entry ∈
        (Registry.ofSettings (Config.choose world options.path).result.settings).entries,
        entry.enabled = true ∧ entry.rule.metadata = rule.metadata := by
      rw [entries_ofSettings]
      exact ⟨_, List.mem_map.mpr ⟨rule, builtin, rfl⟩, Settings.enabled_entry.mpr enabled, rfl⟩
    obtain ⟨source, within, same⟩ := List.mem_filterMap.mp member
    split at same
    · next text content =>
      obtain rfl := Option.some.inj same
      refine ⟨Check.ruleEvent script entry, (told _ rfl).mpr ⟨source, within, ?_⟩, rfl, is ▸ List.mem_cons_self⟩
      exact (Check.mem_fileEvents rfl).mpr ⟨text, content, script, read, entry, inside, on, rfl⟩
    · cases same

theorem Explain.saysDisabled_iff (world : World) {rule : ModuleRule} (builtin : rule ∈ builtinRules) :
    Explain.SaysDisabled world rule ↔
      ¬ (Config.choose world world.currentPath).result.settings.Enables rule.metadata := by
  generalize is : (Config.choose world world.currentPath).result.settings = settings
  have found : (Registry.ofSettings settings).find? rule.metadata.id = some rule.toRule := by
    simp only [builtinRules, List.mem_cons, List.not_mem_nil, or_false] at builtin
    rcases builtin with rfl | rfl | rfl | rfl <;> rfl
  have output : (Explain.run world rule.metadata.id).output =
      Explain.page (Registry.ofSettings settings) rule.metadata := by
    simp only [Explain.run, is, found, ModuleRule.metadata_toRule]
  rw [Explain.SaysDisabled, output, Explain.mem_page, ← isEnabled_ofSettings settings builtin, Bool.not_eq_true]

open Config (choose settingsOf nearest? fileIn?)

variable {world : World}

theorem settings_relative {path : Path} (relative : path.isAbsolute = false) :
    (choose world path).result.settings =
      settingsOf (nearest? world.root world.current.length (world.current ++ path.names)) := by
  rw [Config.settings_choose, Config.find?_relative relative]

theorem settings_below (placed : world.Placed) (path : Path) :
    (choose world (world.currentPath.join path)).result.settings =
      settingsOf (nearest? world.root 0 (world.current ++ path.names)) := by
  rw [Config.settings_choose, Config.find?_below placed]

theorem settings_here (world : World) :
    (choose world ".").result.settings = settingsOf (fileIn? world.root world.current) := by
  have relative : Path.isAbsolute "." = false := rfl
  have noNames : Path.names "." = [] := by decide
  rw [settings_relative relative, noNames, List.append_nil, Config.nearest?_length]

theorem settings_current (placed : world.Placed) :
    (choose world world.currentPath).result.settings =
      settingsOf ((fileIn? world.root world.current).or (nearest? world.root 0 world.current.dropLast)) := by
  have split := Config.nearest?_above world.root world.current []
  rw [List.append_nil, Config.nearest?_length] at split
  rw [Config.settings_choose, Config.find?_absolute (Config.isAbsolute_currentPath world),
    Config.names_currentPath placed, split]

theorem enables_default (metadata : Metadata) : ({} : Settings).Enables metadata := by
  refine ⟨?_, List.not_mem_nil, List.not_mem_nil⟩
  cases metadata.category <;> decide

/-- Explanations agree with checks of the current directory just if it has a configuration of its own or what lies above
it leaves all rules on. -/
theorem explain_agrees_iff (placed : world.Placed) {options : CheckOptions} (here : options.path = ".")
    {outcome : Outcome} (ends : Check.Ends world options outcome) :
    (∀ rule ∈ builtinRules, Explain.SaysDisabled world rule ↔ ¬ Check.Ran outcome rule) ↔
      fileIn? world.root world.current ≠ none ∨
        ∀ rule ∈ builtinRules, (settingsOf (nearest? world.root 0 world.current.dropLast)).Enables rule.metadata := by
  have each : ∀ rule ∈ builtinRules, (Explain.SaysDisabled world rule ↔ ¬ Check.Ran outcome rule) ↔
      ((settingsOf ((fileIn? world.root world.current).or (nearest? world.root 0 world.current.dropLast))).Enables
        rule.metadata ↔ (settingsOf (fileIn? world.root world.current)).Enables rule.metadata) := by
    intro rule builtin
    rw [Explain.saysDisabled_iff world builtin, ends.ran_iff builtin, here, settings_current placed,
      settings_here, not_iff_not]
  rw [forall₂_congr each]
  cases fileIn? world.root world.current with
  | some content => simp
  | none =>
    have default : ∀ rule : ModuleRule, (settingsOf none).Enables rule.metadata := fun rule => enables_default rule.metadata
    simp [default]

/-- A check of a path that is not absolute uses the nearest configuration on the way from the current directory to the
path, and a check of the same path below the current directory the nearest one on the way from the root. So the two use
the same settings just if there is a configuration on the way from the current directory or what lies above it comes to
the defaults, and it takes the like for explanations to agree with checks of the current directory. -/
theorem relative_lookup_ends_at_current (world : World) (placed : world.Placed) :
    (∀ path : Path, path.isAbsolute = false →
      (choose world path).result.settings =
        settingsOf (nearest? world.root world.current.length (world.current ++ path.names)) ∧
      (choose world (world.currentPath.join path)).result.settings =
        settingsOf (nearest? world.root 0 (world.current ++ path.names)) ∧
      ((choose world path).result.settings = (choose world (world.currentPath.join path)).result.settings ↔
        nearest? world.root world.current.length (world.current ++ path.names) ≠ none ∨
          settingsOf (nearest? world.root 0 world.current.dropLast) = {})) ∧
      ∀ options outcome, options.path = "." → Check.Ends world options outcome →
        ((∀ rule ∈ builtinRules, Explain.SaysDisabled world rule ↔ ¬ Check.Ran outcome rule) ↔
          fileIn? world.root world.current ≠ none ∨
            ∀ rule ∈ builtinRules,
              (settingsOf (nearest? world.root 0 world.current.dropLast)).Enables rule.metadata) := by
  refine ⟨fun path relative => ?_, fun options outcome here ends => explain_agrees_iff placed here ends⟩
  refine ⟨settings_relative relative, settings_below placed path, ?_⟩
  rw [settings_relative relative, settings_below placed path, Config.nearest?_above]
  cases nearest? world.root world.current.length (world.current ++ path.names) with
  | some content => simp
  | none =>
    have default : settingsOf none = {} := rfl
    simp [default, eq_comm]

/-- A configuration at the root, another one in one of two directories, and the other directory as the current one. -/
def configuredAbove : World where
  root := [("namelint.toml", .file (.text "[rules]\nhooks = false\n")),
    ("lib", .directory [("namelint.toml", .file (.text "[rules]\nnaming = false\n")),
      ("a.js", .file (.text "useX()\n"))]),
    ("sub", .directory [("a.js", .file (.text "useX()\n"))])]
  current := ["sub"]

/-- The same with the directory that has a configuration as the current one. -/
def configuredHere : World := { configuredAbove with current := ["lib"] }

theorem configuredHere_agrees :
    (choose configuredHere "a.js").result.settings =
        (choose configuredHere (configuredHere.currentPath.join "a.js")).result.settings ∧
      (choose configuredHere "a.js").result.settings.naming = some false ∧
      ∃ outcome, Check.run? configuredHere { path := "." } = some outcome ∧
        ∀ rule ∈ builtinRules, Explain.SaysDisabled configuredHere rule ↔ ¬ Check.Ran outcome rule := by
  have placed : configuredHere.Placed := show ∀ name ∈ configuredHere.current, Files.IsName name by decide
  obtain ⟨paths, explanations⟩ := relative_lookup_ends_at_current configuredHere placed
  obtain ⟨within, -, same⟩ := paths "a.js" rfl
  have found : nearest? configuredHere.root configuredHere.current.length
      (configuredHere.current ++ Path.names "a.js") = some (.text "[rules]\nnaming = false\n") := by
    decide +kernel
  have settings : (settingsOf (some (.text "[rules]\nnaming = false\n"))).naming = some false := by decide +kernel
  have answers : (Check.run? configuredHere { path := "." }).isSome = true := by decide +kernel
  obtain ⟨outcome, ended⟩ := Option.isSome_iff_exists.mp answers
  have ends : Check.Ends configuredHere { path := "." } outcome :=
    ⟨⟨.pretty, rfl⟩, ⟨.hint, rfl⟩, ⟨[⟨"./a.js", .text "useX()\n"⟩], by decide +kernel, by decide⟩, ended⟩
  refine ⟨same.mpr (.inl ?_), ?_, outcome, ended, (explanations _ _ rfl ends).mpr (.inl (by decide +kernel))⟩
  · rw [found]
    exact Option.some_ne_none _
  · rw [within, found, settings]

/-- A check of the current directory runs a rule that a configuration above switches off. A check of the same directory
by its absolute path would use other settings, and the explanation says that the rule is switched off. -/
theorem configuredAbove_missed :
    (choose configuredAbove ".").result.settings ≠
        (choose configuredAbove (configuredAbove.currentPath.join ".")).result.settings ∧
      Explain.SaysDisabled configuredAbove HookCallback.rule ∧
      ∃ outcome, Check.run? configuredAbove { path := "." } = some outcome ∧ Check.Ran outcome HookCallback.rule := by
  have answers : (Check.run? configuredAbove { path := "." }).isSome = true := by decide +kernel
  obtain ⟨outcome, ended⟩ := Option.isSome_iff_exists.mp answers
  have ends : Check.Ends configuredAbove { path := "." } outcome :=
    ⟨⟨.pretty, rfl⟩, ⟨.hint, rfl⟩, ⟨[⟨"./a.js", .text "useX()\n"⟩], by decide +kernel, by decide⟩, ended⟩
  have unconfigured : (choose configuredAbove ".").result.settings = {} := by decide +kernel
  refine ⟨by decide +kernel, ?_, outcome, ended, (ends.ran_iff List.mem_cons_self).mpr ?_⟩
  · unfold Explain.SaysDisabled
    decide +kernel
  · rw [unconfigured]
    exact enables_default _

end Command

end NameCheck
