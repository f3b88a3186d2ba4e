import Dicebag.Environment.Load
import Dicebag.Settings.Basic
import Mathlib.Data.List.Induction

/-!
# Dicebag.Proofs.Environment.Precedence

Which value a variable has once the environment files are loaded.  The files
lie on top of each other as `Layer`s, the process environment below all of
them, and what is set further down stays.  How a file is cut into statements is
up to the library:

* `EnvironmentFile.lookup_bindings` — a file gives a name at most one value;
* `Layer.get?_stacked` — a name has the value of the lowest layer that gives
  it one;
* `Workspace.environment_load` — loading is stacking, unless it is switched
  off or stopped;
* `Workspace.load_precedence` — the value of every variable and of every
  setting.
-/

namespace Dicebag

/-! ## Defining names -/

theorem Environment.defineAll_of_accepted (env : Environment)
    {definitions : List (String × String)}
    (h : ∀ d ∈ definitions, refusal? d.1 d.2 = none) :
    (env.defineAll definitions).2 = none ∧
      ∀ name, (env.defineAll definitions).1.get? name =
        (env.get? name).or (definitions.lookup name) := by
  induction definitions generalizing env with
  | nil => simp [defineAll]
  | cons d definitions ih =>
    obtain ⟨hd, hrest⟩ := List.forall_mem_cons.1 h
    have hstep : env.defineAll (d :: definitions) = (env.define d.1 d.2).defineAll definitions := by
      rw [defineAll, hd]
      cases env.get? d.1 <;> rfl
    obtain ⟨hrefusal, hget⟩ := ih (env.define d.1 d.2) hrest
    rw [hstep]
    refine ⟨hrefusal, fun name => ?_⟩
    rw [hget, get?_define, List.lookup_cons]
    by_cases hname : name = d.1
    · subst hname
      cases env.get? d.1 <;> simp
    · simp [hname, beq_false_of_ne hname]

namespace EnvironmentFile

/-- The value that a file gives a name where it is loaded on top of an
environment. -/
def value? [Library] (env : Environment) (content : String) (name : String) : Option String :=
  final (known env (Library.statements content)) name

theorem lookup_filterMap_names (names : List String) (value : String → Option String)
    (name : String) :
    (names.filterMap fun other => (value other).map (other, ·)).lookup name =
      if name ∈ names then value name else none := by
  induction names with
  | nil => rfl
  | cons other names ih =>
    rw [List.filterMap_cons]
    by_cases hname : name = other
    · subst hname
      cases hvalue : value name with
      | none => simp [ih, hvalue]
      | some v => simp
    · cases value other with
      | none => simp [ih, hname]
      | some v => simp [List.lookup_cons, beq_false_of_ne hname, ih, hname]

theorem final_eq_none_of_notMem {known : Known} {name : String}
    (h : name ∉ known.map Prod.fst) : final known name = none := by
  rw [final, List.lookup_eq_none_iff.2]
  · rfl
  · intro entry hentry
    refine bne_iff_ne.2 fun heq => ?_
    exact h (heq ▸ List.mem_map_of_mem hentry)

/-- Whatever is said of a name on the way, the definitions of a file come
down to the value that it ends up with. -/
theorem lookup_bindings (known : Known) (name : String) :
    (bindings known).lookup name = final known name := by
  have hnames : bindings known = (known.reverse.map Prod.fst).filterMap fun other =>
      (final known other).map (other, ·) := by
    rw [List.filterMap_map]
    rfl
  rw [hnames, lookup_filterMap_names]
  split
  · rfl
  · next hmem =>
    rw [List.map_reverse, List.mem_reverse] at hmem
    exact (final_eq_none_of_notMem hmem).symm

theorem exists_value_of_mem_bindings {known : Known} {d : String × String}
    (h : d ∈ bindings known) : final known d.1 = some d.2 := by
  obtain ⟨entry, _, hentry⟩ := List.mem_filterMap.1 h
  obtain ⟨value, hvalue, rfl⟩ := Option.map_eq_some_iff.1 hentry
  exact hvalue

end EnvironmentFile

/-! ## Layers -/

/-- A file that is loaded, and the environment that it is loaded on top
of. -/
structure Layer where
  base : Environment
  content : String

namespace Layer

variable [Library]

/-- The value that the file gives a name. -/
def value? (layer : Layer) (name : String) : Option String :=
  EnvironmentFile.value? layer.base layer.content name

/-- All that the file gives a value can be a variable with that value. -/
def IsAccepted (layer : Layer) : Prop :=
  ∀ name value, layer.value? name = some value → Environment.refusal? name value = none

theorem isAccepted_iff {layer : Layer} :
    layer.IsAccepted ↔
      ∀ d ∈ EnvironmentFile.bindings
          (EnvironmentFile.known layer.base (Library.statements layer.content)),
        Environment.refusal? d.1 d.2 = none := by
  constructor
  · intro h d hd
    exact h d.1 d.2 (EnvironmentFile.exists_value_of_mem_bindings hd)
  · intro h name value hvalue
    rw [value?, EnvironmentFile.value?, ← EnvironmentFile.lookup_bindings,
      List.lookup_eq_some_iff] at hvalue
    obtain ⟨before, after, hbindings, _⟩ := hvalue
    refine h (name, value) ?_
    rw [hbindings]
    exact List.mem_append_right _ List.mem_cons_self

/-- The environment with the file on top of it. -/
def top (layer : Layer) : Environment := (EnvironmentFile.load layer.base layer.content).environment

/-- What is set stays, and all other names have the values that the file
gives them. -/
theorem load_of_isAccepted {layer : Layer} (h : layer.IsAccepted) :
    (EnvironmentFile.load layer.base layer.content).refusal = none ∧
      ∀ name, layer.top.get? name = (layer.base.get? name).or (layer.value? name) := by
  obtain ⟨hrefusal, hget⟩ :=
    Environment.defineAll_of_accepted layer.base (isAccepted_iff.1 h)
  refine ⟨hrefusal, fun name => ?_⟩
  rw [value?, EnvironmentFile.value?, ← EnvironmentFile.lookup_bindings]
  exact hget name

/-- The environment with files on top of it, one after the other. -/
def stacked (env : Environment) : List String → Environment
  | [] => env
  | content :: files => stacked (top ⟨env, content⟩) files

/-- Files as layers, each on top of those before it. -/
def stack (env : Environment) : List String → List Layer
  | [] => []
  | content :: files => ⟨env, content⟩ :: stack (top ⟨env, content⟩) files

variable {env : Environment} {files others : List String}

theorem stacked_append (env : Environment) (files others : List String) :
    stacked env (files ++ others) = stacked (stacked env files) others := by
  induction files generalizing env with
  | nil => rfl
  | cons content files ih => exact ih _

theorem stack_append (env : Environment) (files others : List String) :
    stack env (files ++ others) = stack env files ++ stack (stacked env files) others := by
  induction files generalizing env with
  | nil => rfl
  | cons content files ih => exact congrArg _ (ih _)

theorem map_content_stack (env : Environment) (files : List String) :
    (stack env files).map content = files := by
  induction files generalizing env with
  | nil => rfl
  | cons content files ih => exact congrArg _ (ih _)

/-- A name that is set keeps its value, and any other has that of the lowest
layer that gives it one. -/
theorem get?_stacked (h : ∀ layer ∈ stack env files, layer.IsAccepted) (name : String) :
    (stacked env files).get? name =
      (env.get? name).or ((stack env files).findSome? fun layer => layer.value? name) := by
  induction files generalizing env with
  | nil => exact (Option.or_none).symm
  | cons content files ih =>
    obtain ⟨hlayer, hothers⟩ := List.forall_mem_cons.1 h
    rw [stacked, ih hothers, (load_of_isAccepted hlayer).2, Option.or_assoc, stack,
      List.findSome?_cons]
    cases (⟨env, content⟩ : Layer).value? name <;> rfl

/-- Each layer lies on the process environment and the layers before it. -/
theorem base_of_stack_eq {before after : List Layer} {layer : Layer}
    (h : stack env files = before ++ layer :: after) :
    ∃ lower upper, files = lower ++ upper ∧ before = stack env lower ∧
      layer.base = stacked env lower := by
  induction before generalizing env files with
  | nil =>
    cases files with
    | nil => cases h
    | cons content files =>
      obtain ⟨rfl, _⟩ := List.cons.inj h
      exact ⟨[], _, rfl, rfl, rfl⟩
  | cons first before ih =>
    cases files with
    | nil => cases h
    | cons content files =>
      obtain ⟨rfl, hrest⟩ := List.cons.inj h
      obtain ⟨lower, upper, rfl, rfl, hbase⟩ := ih hrest
      exact ⟨content :: lower, upper, rfl, rfl, hbase⟩

end Layer

/-! ## The nearest file -/

namespace Files

variable {files : Files} {name content : String} {directory : Path}

/-- In a directory, or else above it. -/
theorem nearest?_concat (directory : Path) (part : String) :
    files.nearest? name (directory ++ [part]) =
      (files.get? (directory ++ [part] ++ [name])).or (files.nearest? name directory) := by
  have hpath : directory.reverse.reverse ++ [part, name] = directory ++ [part] ++ [name] := by
    rw [List.reverse_reverse, List.append_assoc]
    rfl
  rw [nearest?, List.reverse_concat, nearestFrom?, hpath]
  cases files.get? (directory ++ [part] ++ [name]) <;> rfl

/-- The nearest file stands at or above the directory, and none of its name
stands further down. -/
theorem nearest?_eq_some_iff :
    files.nearest? name directory = some content ↔
      ∃ n ≤ directory.length, files.get? (directory.take n ++ [name]) = some content ∧
        ∀ m, n < m → m ≤ directory.length → files.get? (directory.take m ++ [name]) = none := by
  induction directory using List.reverseRecOn with
  | nil =>
    constructor
    · intro hfound
      exact ⟨0, Nat.le_refl _, hfound, fun m hlt hle => absurd hle (Nat.not_le_of_lt hlt)⟩
    · intro ⟨n, _, hfound, _⟩
      rwa [List.take_nil] at hfound
  | append_singleton directory part ih =>
    have htake : ∀ n ≤ directory.length, (directory ++ [part]).take n = directory.take n :=
      fun n hn => List.take_append_of_le_length hn
    have hwhole : (directory ++ [part]).take (directory.length + 1) = directory ++ [part] :=
      List.take_of_length_le (Nat.le_of_eq List.length_append)
    rw [nearest?_concat, List.length_append, List.length_singleton]
    cases hhere : files.get? (directory ++ [part] ++ [name]) with
    | some here =>
      rw [Option.some_or]
      constructor
      · intro heq
        refine ⟨directory.length + 1, Nat.le_refl _, ?_, fun m hlt hle => by omega⟩
        rw [hwhole, hhere, heq]
      · intro ⟨n, hn, hfound, hnone⟩
        by_cases hlast : n = directory.length + 1
        · rw [hlast, hwhole, hhere] at hfound
          exact hfound
        · have hmissing := hnone (directory.length + 1) (by omega) (Nat.le_refl _)
          rw [hwhole, hhere] at hmissing
          cases hmissing
    | none =>
      rw [Option.none_or, ih]
      constructor
      · intro ⟨n, hn, hfound, hnone⟩
        refine ⟨n, by omega, by rwa [htake n hn], fun m hlt hle => ?_⟩
        by_cases hlast : m = directory.length + 1
        · rw [hlast, hwhole, hhere]
        · rw [htake m (by omega)]
          exact hnone m hlt (by omega)
      · intro ⟨n, hn, hfound, hnone⟩
        have hle : n ≤ directory.length := by
          refine Nat.le_of_lt_succ (Nat.lt_of_le_of_ne hn fun hlast => ?_)
          rw [hlast, hwhole, hhere] at hfound
          cases hfound
        refine ⟨n, hle, by rwa [htake n hle] at hfound, fun m hlt hm => ?_⟩
        have hmissing := hnone m hlt (by omega)
        rwa [htake m hm] at hmissing

end Files

/-! ## Settings from an environment -/

namespace Settings

/-- Two settings have the same value for a field. -/
def AgreesAt : Field → Settings → Settings → Prop
  | .trance, s, t => s.trance = t.trance
  | .seed, s, t => s.seed = t.seed
  | .level, s, t => s.level = t.level

/-- What a setting is given in the text of its variable; a blank text gives
nothing. -/
def given? (text : String) : Option Value :=
  if Text.strip text.toList = [] then none else some (.text (Text.strip text.toList))

theorem variableValue_eq (env : Environment) (field : Field) :
    variableValue env field = (env.get? field.variable).bind given? := by
  unfold variableValue
  cases env.get? field.variable with
  | none => rfl
  | some text =>
    rw [Option.getD_some, Option.bind_some, given?]
    cases Text.strip text.toList <;> rfl

/-- A field that is given nothing has its default. -/
theorem agreesAt_default [Library] {env : Environment} {s : Settings} {field : Field}
    (h : ofEnvironment env = .ok s) (hvalue : variableValue env field = none) :
    AgreesAt field s {} := by
  unfold ofEnvironment ofValues at h
  split at h
  · next htrance hseed hlevel =>
    cases h
    cases field with
    | trance =>
      rw [hvalue] at htrance
      exact (Except.ok.inj htrance).symm
    | seed =>
      rw [hvalue] at hseed
      exact (Except.ok.inj hseed).symm
    | level =>
      rw [hvalue] at hlevel
      exact (Except.ok.inj hlevel).symm
  · cases h

end Settings

/-! ## Loading -/

namespace Workspace

variable {w : Workspace}

/-- The files that are loaded whether or not a test is running. -/
def firstFiles (w : Workspace) : List String :=
  (w.files.nearest? ".env" w.directory).toList ++
    (w.files.get? (w.directory ++ [".env.local"])).toList

/-- The file that is loaded if a test is running then. -/
def testFile (w : Workspace) : List String :=
  (w.files.get? (w.directory ++ [".env.test"])).toList

theorem isSwitchedOff_of_get? {env : Environment} (h : env.get? switch = none) :
    isSwitchedOff env = false := by
  rw [isSwitchedOff, h]

section

variable [Library]

/-- The files that are loaded, in their order. -/
def loadedFiles (w : Workspace) : List String :=
  w.firstFiles ++ if isTesting (Layer.stacked w.environment w.firstFiles) then w.testFile else []

/-- The files that are loaded as layers on the process environment. -/
def layers (w : Workspace) : List Layer := Layer.stack w.environment w.loadedFiles

/-- The value of a name by the first that defines it: the process
environment, or else the lowest layer. -/
def definition? (w : Workspace) (name : String) : Option String :=
  (w.environment.get? name).or (w.layers.findSome? fun layer => layer.value? name)

/-- Loading up to where it matters whether a test is running. -/
def beforeTest (w : Workspace) : Loading :=
  loadFile (w.files.get? (w.directory ++ [".env.local"]))
    (loadFile (w.files.nearest? ".env" w.directory) { environment := w.environment })

theorem load_eq (w : Workspace) :
    w.load =
      if isTesting w.beforeTest.environment then
        loadFile (w.files.get? (w.directory ++ [".env.test"])) w.beforeTest
      else w.beforeTest := rfl

theorem definition?_switch_lower {w : Workspace} {files others : List String} {name : String}
    (hfiles : w.loadedFiles = files ++ others)
    (haccepted : ∀ layer ∈ w.layers, layer.IsAccepted) (h : w.definition? name = none) :
    (Layer.stacked w.environment files).get? name = none := by
  rw [layers, hfiles, Layer.stack_append, List.forall_mem_append] at haccepted
  rw [definition?, layers, hfiles, Layer.stack_append, List.findSome?_append, ← Option.or_assoc,
    Option.or_eq_none_iff] at h
  rw [Layer.get?_stacked haccepted.1]
  exact h.1

/-- Each layer lies on the process environment and the layers below it. -/
theorem get?_base (haccepted : ∀ layer ∈ w.layers, layer.IsAccepted)
    {before after : List Layer} {layer : Layer}
    (hlayers : w.layers = before ++ layer :: after) (name : String) :
    layer.base.get? name =
      (w.environment.get? name).or (before.findSome? fun lower => lower.value? name) := by
  obtain ⟨lower, upper, hfiles, rfl, hbase⟩ := Layer.base_of_stack_eq hlayers
  rw [hbase, Layer.get?_stacked]
  intro layer hlayer
  refine haccepted layer ?_
  rw [hlayers]
  exact List.mem_append_left _ hlayer

/-- Loading has come to the environment with files on top of it, and was not
stopped. -/
structure Stacks (loading : Loading) (env : Environment) (files : List String) : Prop where
  environment : loading.environment = Layer.stacked env files
  refusal : loading.refusal = none

/-- Another file lies on top of the others, unless it is refused or loading
is switched off. -/
theorem Stacks.loadFile {loading : Loading} {env : Environment} {files : List String}
    {content : Option String} (h : Stacks loading env files)
    (haccepted : ∀ layer ∈ Layer.stack (Layer.stacked env files) content.toList,
      layer.IsAccepted)
    (hswitch : (Layer.stacked env files).get? switch = none) :
    Stacks (loadFile content loading) env (files ++ content.toList) := by
  cases content with
  | none =>
    rw [Option.toList_none, List.append_nil]
    exact h
  | some content =>
    obtain ⟨hrefusal, _⟩ := Layer.load_of_isAccepted (List.forall_mem_singleton.1 haccepted)
    have hload : Workspace.loadFile (some content) loading =
        { EnvironmentFile.load loading.environment content with
          warnings := loading.warnings ++
            (EnvironmentFile.load loading.environment content).warnings } := by
      rw [← h.environment] at hswitch
      simp only [Workspace.loadFile, h.refusal, isSwitchedOff_of_get? hswitch, Bool.false_eq_true,
        if_false]
    rw [hload, h.environment]
    refine ⟨?_, hrefusal⟩
    rw [Layer.stacked_append]
    rfl

section

variable (haccepted : ∀ layer ∈ w.layers, layer.IsAccepted)
  (hswitch : w.definition? switch = none)

include haccepted hswitch

/-- The next of the files that are loaded. -/
theorem Stacks.next (content : Option String) {loading : Loading} {files rest : List String}
    (h : Stacks loading w.environment files)
    (hfiles : w.loadedFiles = files ++ (content.toList ++ rest)) :
    Stacks (Workspace.loadFile content loading) w.environment (files ++ content.toList) := by
  refine h.loadFile ?_ (definition?_switch_lower hfiles haccepted hswitch)
  rw [layers, hfiles, Layer.stack_append, Layer.stack_append, List.forall_mem_append,
    List.forall_mem_append] at haccepted
  exact haccepted.2.1

theorem stacks_beforeTest : Stacks w.beforeTest w.environment w.firstFiles := by
  have hnone : Stacks { environment := w.environment } w.environment [] := ⟨rfl, rfl⟩
  have hbase := hnone.next haccepted hswitch (w.files.nearest? ".env" w.directory)
    (by rw [loadedFiles, firstFiles, List.nil_append, List.append_assoc])
  rw [List.nil_append] at hbase
  exact hbase.next haccepted hswitch _ (by rw [loadedFiles, firstFiles, List.append_assoc])

theorem stacks_load : Stacks w.load w.environment w.loadedFiles := by
  have hfirst := stacks_beforeTest haccepted hswitch
  rw [load_eq, hfirst.environment]
  by_cases htesting : isTesting (Layer.stacked w.environment w.firstFiles) = true
  · have hfiles : w.loadedFiles = w.firstFiles ++ w.testFile := by rw [loadedFiles, if_pos htesting]
    rw [if_pos htesting, hfiles]
    exact hfirst.next haccepted hswitch _ (hfiles.trans (by rw [testFile, List.append_nil]))
  · rw [if_neg htesting, loadedFiles, if_neg htesting, List.append_nil]
    exact hfirst

/-- A name has the value of the first that defines it. -/
theorem get?_load (name : String) : w.load.environment.get? name = w.definition? name := by
  rw [(stacks_load haccepted hswitch).environment, Layer.get?_stacked haccepted]
  rfl

end

/-- **Precedence**: where the switch is defined nowhere and all that the
files define can be a variable, loading is not stopped and

* the files are the nearest `.env`, `.env.local`, and `.env.test` if a test
  is running once the other two are loaded;
* each of them is read on top of the process environment and those before
  it;
* a name that the process environment defines keeps its value;
* any other is bound if one of the files gives it a value, and then to the
  value of the first that does;
* a setting is given what stands in the first definition of its variable,
  and if that is blank it has its default. -/
theorem load_precedence (w : Workspace) (haccepted : ∀ layer ∈ w.layers, layer.IsAccepted)
    (hswitch : w.definition? switch = none) :
    w.load.refusal = none ∧
    (w.layers.map Layer.content =
        (w.files.nearest? ".env" w.directory).toList ++
          (w.files.get? (w.directory ++ [".env.local"])).toList ++
          (if (w.beforeTest.environment.get? testVariable).getD "" ≠ "" then
            (w.files.get? (w.directory ++ [".env.test"])).toList else []) ∧
      ∀ content, w.files.nearest? ".env" w.directory = some content ↔
        ∃ n ≤ w.directory.length,
          w.files.get? (w.directory.take n ++ [".env"]) = some content ∧
            ∀ m, n < m → m ≤ w.directory.length →
              w.files.get? (w.directory.take m ++ [".env"]) = none) ∧
    (∀ before layer after, w.layers = before ++ layer :: after → ∀ name,
      layer.base.get? name =
        (w.environment.get? name).or (before.findSome? fun lower => lower.value? name)) ∧
    (∀ name value, w.environment.get? name = some value →
      w.load.environment.get? name = some value) ∧
    (∀ name, w.environment.get? name = none →
      ((∃ value, w.load.environment.get? name = some value) ↔
        ∃ layer ∈ w.layers, ∃ value, layer.value? name = some value) ∧
      ∀ before layer after value, w.layers = before ++ layer :: after →
        (∀ lower ∈ before, lower.value? name = none) → layer.value? name = some value →
          w.load.environment.get? name = some value) ∧
    (∀ field : Settings.Field,
      Settings.variableValue w.load.environment field =
        (w.definition? field.variable).bind Settings.given? ∧
      ∀ text s, w.definition? field.variable = some text → Text.strip text.toList = [] →
        Settings.ofEnvironment w.load.environment = .ok s → Settings.AgreesAt field s {}) := by
  have hget := get?_load haccepted hswitch
  refine ⟨(stacks_load haccepted hswitch).refusal, ⟨?_, fun content => Files.nearest?_eq_some_iff⟩,
    fun before layer after hlayers => get?_base haccepted hlayers, ?_, ?_, ?_⟩
  · rw [layers, Layer.map_content_stack, loadedFiles,
      (stacks_beforeTest haccepted hswitch).environment]
    simp only [isTesting, bne_iff_ne]
    rfl
  · intro name value hvalue
    rw [hget, definition?, hvalue, Option.some_or]
  · intro name hnone
    have hfirst : w.load.environment.get? name =
        w.layers.findSome? fun layer => layer.value? name := by
      rw [hget, definition?, hnone, Option.none_or]
    rw [hfirst]
    constructor
    · simp only [← Option.isSome_iff_exists]
      exact List.findSome?_isSome_iff
    · intro before layer after value hlayers hbefore hvalue
      exact List.findSome?_eq_some_iff.2 ⟨before, layer, after, hlayers, hvalue, hbefore⟩
  · intro field
    have hgiven : Settings.variableValue w.load.environment field =
        (w.definition? field.variable).bind Settings.given? := by
      rw [Settings.variableValue_eq, hget]
    refine ⟨hgiven, fun text s hdefinition hblank hsettings => ?_⟩
    refine Settings.agreesAt_default hsettings ?_
    rw [hgiven, hdefinition, Option.bind_some, Settings.given?, if_pos hblank]

end

/-- A directory below one that has a file, and two files of its own. -/
def nested : Workspace where
  files := ⟨[([".env"], "LEGEND_SEED=1"),
    (["a", ".env"], "LEGEND_SEED=7\nPYTEST_CURRENT_TEST=x\nLEGEND_LOG_LEVEL\nLEGEND_TRANCE=0"),
    (["a", "b", ".env.local"], "LEGEND_SEED=8\nLEGEND_LOG_LEVEL=' '"),
    (["a", "b", ".env.test"], "LEGEND_LOG_LEVEL=error\nLEGEND_SEED=9")]⟩
  directory := ["a", "b"]
  environment := ⟨[("LEGEND_TRANCE", "1")]⟩

/-- The trance of the process environment stays, the seed is that of the
nearer `.env`, a blank level hides the one behind it, and what the first
file says makes the last one be loaded. -/
theorem load_precedence_nested :
    (∀ layer ∈ nested.layers, layer.IsAccepted) ∧ nested.definition? switch = none ∧
      nested.load.refusal = none ∧
      nested.load.environment.get? "LEGEND_TRANCE" = some "1" ∧
      nested.load.environment.get? "LEGEND_SEED" = some "7" ∧
      ∀ s, Settings.ofEnvironment nested.load.environment = .ok s → s.level = .warning := by
  have haccepted : ∀ layer ∈ nested.layers, layer.IsAccepted := by
    simp only [Layer.isAccepted_iff]
    decide +kernel
  have hswitch : nested.definition? switch = none := by decide +kernel
  obtain ⟨hrefusal, _, _, hprocess, hfiles, hsettings⟩ :=
    load_precedence nested haccepted hswitch
  have hfirst : nested.loadedFiles.head? = nested.files.get? ["a", ".env"] := by decide +kernel
  obtain ⟨content, others, hloaded⟩ : ∃ content others, nested.loadedFiles = content :: others :=
    List.exists_cons_of_ne_nil (by decide +kernel)
  refine ⟨haccepted, hswitch, hrefusal, hprocess _ _ (by decide +kernel), ?_, ?_⟩
  · have hlayers : nested.layers = [] ++ ⟨nested.environment, content⟩ ::
        Layer.stack (Layer.top ⟨nested.environment, content⟩) others := by
      rw [layers, hloaded]
      rfl
    rw [hloaded] at hfirst
    cases hfirst
    exact (hfiles "LEGEND_SEED" (by decide +kernel)).2 [] _ _ "7" hlayers
      (List.forall_mem_nil _) (by decide +kernel)
  · intro s hs
    exact (hsettings .level).2 " " s (by decide +kernel) (by decide +kernel) hs

end Workspace

end Dicebag
