import Dicebag.Proofs.Environment.Precedence
import Mathlib.Data.List.Basic
import Mathlib.Logic.Function.Iterate

/-!
# Dicebag.Proofs.Environment.Reloading

Loading the environment files once more, with the environment that the first
time left.  Which names a file gives a value does not depend on the
environment (`EnvironmentFile.names_bindings`), and what is set stays, so a
file that was loaded to its end has nothing left to define
(`Layer.top_on_of_stop?_eq_none`).

A file that stopped the loading is different: a value that was refused can
come out otherwise now that the names before it are set.  That is the only
way in which the second time differs from the first (`Workspace.Resumes`).
The steps of the two runs are followed side by side
(`Workspace.environment_loadAll_again`), and `Workspace.load_idempotent_iff`
joins the two cases.
-/

namespace Dicebag

/-! ## Environments that grow -/

namespace Environment

variable {env other : Environment} {definitions before rest : List (String × String)}
  {d : String × String}

/-- All that is set in the other environment has the same value here. -/
def Extends (env other : Environment) : Prop :=
  ∀ name value, other.get? name = some value → env.get? name = some value

theorem Extends.refl (env : Environment) : env.Extends env := fun _ _ h => h

theorem Extends.trans {first second third : Environment} (h : second.Extends first)
    (h' : third.Extends second) : third.Extends first := fun name value hvalue =>
  h' name value (h name value hvalue)

theorem Extends.isSome_get? (h : env.Extends other) {name : String}
    (hname : (other.get? name).isSome) : (env.get? name).isSome := by
  obtain ⟨value, hvalue⟩ := Option.isSome_iff_exists.1 hname
  simp [h name value hvalue]

theorem extends_define (env : Environment) (name value : String) :
    (env.define name value).Extends env := by
  intro other v hv
  by_cases h : other = name
  · subst h
    simp [hv]
  · simp [h, hv]

/-- The definition at which defining names stops: the first of a name without
a value that is refused. -/
def stop? (env : Environment) : List (String × String) → Option (String × String)
  | [] => none
  | (name, value) :: rest =>
    match env.get? name, refusal? name value with
    | none, some _ => some (name, value)
    | _, _ => (env.define name value).stop? rest

/-- A definition is refused, or made before the others. -/
theorem defineAll_cons_cases (env : Environment) (d : String × String)
    (rest : List (String × String)) :
    (∃ refusal, env.get? d.1 = none ∧ refusal? d.1 d.2 = some refusal ∧
      env.defineAll (d :: rest) = (env, some refusal) ∧ env.stop? (d :: rest) = some d) ∨
    (env.get? d.1 = none → refusal? d.1 d.2 = none) ∧
      env.defineAll (d :: rest) = (env.define d.1 d.2).defineAll rest ∧
      env.stop? (d :: rest) = (env.define d.1 d.2).stop? rest := by
  obtain ⟨name, value⟩ := d
  rw [defineAll, stop?]
  cases env.get? name with
  | some v => simp
  | none => cases refusal? name value <;> simp

theorem extends_defineAll (env : Environment) (definitions : List (String × String)) :
    (env.defineAll definitions).1.Extends env := by
  induction definitions generalizing env with
  | nil => exact Extends.refl env
  | cons d rest ih =>
    obtain ⟨refusal, _, _, hrefused, _⟩ | ⟨_, hmade, _⟩ := defineAll_cons_cases env d rest
    · rw [hrefused]
      exact Extends.refl env
    · rw [hmade]
      exact (extends_define env d.1 d.2).trans (ih _)

/-- Names that are set are not defined again. -/
theorem defineAll_append_of_set (h : ∀ b ∈ before, (env.get? b.1).isSome)
    (rest : List (String × String)) : env.defineAll (before ++ rest) = env.defineAll rest := by
  induction before with
  | nil => rfl
  | cons b before ih =>
    obtain ⟨hb, hbefore⟩ := List.forall_mem_cons.1 h
    obtain ⟨value, hvalue⟩ := Option.isSome_iff_exists.1 hb
    have hstep : env.define b.1 b.2 = env := by simp [define, hvalue]
    rw [List.cons_append, defineAll, hvalue, hstep]
    exact ih hbefore

theorem defineAll_of_stop?_eq_none (h : env.stop? definitions = none) :
    (env.defineAll definitions).2 = none ∧
      ∀ d ∈ definitions, ((env.defineAll definitions).1.get? d.1).isSome := by
  induction definitions generalizing env with
  | nil => simp [defineAll]
  | cons d rest ih =>
    obtain ⟨refusal, _, _, _, hstop⟩ | ⟨_, hmade, hstop⟩ := defineAll_cons_cases env d rest
    · simp [hstop] at h
    · obtain ⟨hrefusal, hset⟩ := ih (hstop ▸ h)
      rw [hmade]
      refine ⟨hrefusal, List.forall_mem_cons.2 ⟨?_, hset⟩⟩
      exact (extends_defineAll _ rest).isSome_get? (by simp)

/-- Where defining names stops, all names before are set and the one that is
refused is not. -/
theorem defineAll_of_stop?_eq_some (h : env.stop? definitions = some d) :
    ∃ before rest refusal, definitions = before ++ d :: rest ∧
      (∀ b ∈ before, ((env.defineAll definitions).1.get? b.1).isSome) ∧
      (env.defineAll definitions).1.get? d.1 = none ∧
      (env.defineAll definitions).2 = some refusal := by
  induction definitions generalizing env with
  | nil => simp [stop?] at h
  | cons first definitions ih =>
    obtain ⟨refusal, hunset, _, hrefused, hstop⟩ | ⟨_, hmade, hstop⟩ :=
      defineAll_cons_cases env first definitions
    · obtain rfl : first = d := Option.some.inj (hstop.symm.trans h)
      exact ⟨[], definitions, refusal, rfl, by simp, by rw [hrefused]; exact hunset,
        by rw [hrefused]⟩
    · obtain ⟨before, rest, refusal, rfl, hbefore, hunset, hrefusal⟩ := ih (hstop ▸ h)
      rw [hmade]
      refine ⟨first :: before, rest, refusal, rfl, List.forall_mem_cons.2 ⟨?_, hbefore⟩, hunset,
        hrefusal⟩
      exact (extends_defineAll _ _).isSome_get? (by simp)

end Environment

/-! ## The names of a file -/

namespace EnvironmentFile

/-- The names that are mentioned, and whether with a value. -/
def mentions (known : Known) : List (String × Bool) :=
  known.map fun entry => (entry.1, entry.2.isSome)

theorem mentions_learn {env env' : Environment} {known known' : Known} (statement : Statement)
    (h : mentions known = mentions known') :
    mentions (learn env known statement) = mentions (learn env' known' statement) := by
  cases statement with
  | binding name value => simpa [learn, mentions] using h
  | malformed line => exact h

/-- What a file mentions does not depend on what its references come to. -/
theorem mentions_known (env env' : Environment) (file : List Statement) :
    mentions (known env file) = mentions (known env' file) := by
  have hfold : ∀ first second : Known, mentions first = mentions second →
      mentions (file.foldl (learn env) first) = mentions (file.foldl (learn env') second) := by
    induction file with
    | nil => exact fun _ _ h => h
    | cons statement file ih => exact fun _ _ h => ih _ _ (mentions_learn statement h)
  exact hfold [] [] rfl

theorem isSome_final (known : Known) (name : String) :
    (final known name).isSome = ((mentions known).lookup name).getD false := by
  unfold final mentions
  induction known with
  | nil => rfl
  | cons entry known ih =>
    obtain ⟨other, value⟩ := entry
    by_cases h : name = other
    · subst h
      cases value <;> simp
    · simpa [List.lookup_cons, beq_false_of_ne h] using ih

theorem map_fst_bindings (known : Known) :
    (bindings known).map Prod.fst = (mentions known).reverse.filterMap fun entry =>
      if ((mentions known).lookup entry.1).getD false then some entry.1 else none := by
  have hreverse : (mentions known).reverse =
      known.reverse.map fun entry => (entry.1, entry.2.isSome) := List.map_reverse.symm
  rw [bindings, hreverse, List.filterMap_map, List.map_filterMap]
  refine List.filterMap_congr fun entry _ => ?_
  rw [Function.comp_apply, ← isSome_final]
  cases final known entry.1 <;> rfl

/-- A file gives the same names a value wherever it is loaded. -/
theorem names_bindings (env env' : Environment) (file : List Statement) :
    (bindings (known env file)).map Prod.fst = (bindings (known env' file)).map Prod.fst := by
  rw [map_fst_bindings, map_fst_bindings, mentions_known env env']

end EnvironmentFile

/-! ## Layers loaded again -/

namespace Layer

variable {layer : Layer} {env : Environment} {d : String × String}

/-- The same file on top of another environment. -/
def on (layer : Layer) (env : Environment) : Layer := ⟨env, layer.content⟩

variable [Library]

/-- The definitions that the file comes to. -/
def definitions (layer : Layer) : List (String × String) :=
  EnvironmentFile.bindings
    (EnvironmentFile.known layer.base (Library.statements layer.content))

/-- The definition at which loading the file stops. -/
def stop? (layer : Layer) : Option (String × String) := layer.base.stop? layer.definitions

theorem refusal_load (layer : Layer) :
    (EnvironmentFile.load layer.base layer.content).refusal =
      (layer.base.defineAll layer.definitions).2 := rfl

theorem extends_top (layer : Layer) : layer.top.Extends layer.base :=
  Environment.extends_defineAll _ _

/-- A name that the file gives a value has one wherever the file is loaded. -/
theorem exists_value_of_mem_definitions (env : Environment) (h : d ∈ layer.definitions) :
    ∃ d' ∈ (layer.on env).definitions, d'.1 = d.1 := by
  have hname : d.1 ∈ layer.definitions.map Prod.fst := List.mem_map_of_mem h
  rw [definitions, EnvironmentFile.names_bindings layer.base env] at hname
  exact List.mem_map.1 hname

/-- A file that was loaded to its end has nothing left to define. -/
theorem top_on_of_stop?_eq_none (h : layer.stop? = none) (henv : env.Extends layer.top) :
    (layer.on env).top = env ∧
      (EnvironmentFile.load env layer.content).refusal = none := by
  obtain ⟨_, hset⟩ := Environment.defineAll_of_stop?_eq_none h
  have hagain : ∀ d ∈ (layer.on env).definitions, (env.get? d.1).isSome := by
    intro d hd
    obtain ⟨d', hd', hname⟩ := exists_value_of_mem_definitions layer.base hd
    rw [← hname]
    exact henv.isSome_get? (hset d' hd')
  have hall : env.defineAll (layer.on env).definitions = (env, none) := by
    have happend := Environment.defineAll_append_of_set hagain []
    rwa [List.append_nil] at happend
  exact ⟨congrArg Prod.fst hall, congrArg Prod.snd hall⟩

/-- A file that was stopped goes on where it was stopped, with what its value
there comes to now. -/
theorem defineAll_on_top_of_stop?_eq_some (h : layer.stop? = some d) :
    layer.top.get? d.1 = none ∧
      (EnvironmentFile.load layer.base layer.content).refusal ≠ none ∧
      ∃ value rest, (layer.on layer.top).value? d.1 = some value ∧
        layer.top.defineAll (layer.on layer.top).definitions =
          layer.top.defineAll ((d.1, value) :: rest) := by
  obtain ⟨before, rest, refusal, hdefinitions, hset, hunset, hrefusal⟩ :=
    Environment.defineAll_of_stop?_eq_some h
  refine ⟨hunset, by simp [refusal_load, hrefusal], ?_⟩
  have hnames : (layer.on layer.top).definitions.map Prod.fst =
      before.map Prod.fst ++ d.1 :: rest.map Prod.fst := by
    rw [definitions, EnvironmentFile.names_bindings _ layer.base]
    exact (congrArg (List.map Prod.fst) hdefinitions).trans (by simp)
  obtain ⟨before', others, hagain, hbefore', hothers⟩ := List.map_eq_append_iff.1 hnames
  obtain ⟨⟨name, value⟩, rest', rfl, rfl, _⟩ := List.map_eq_cons_iff.1 hothers
  refine ⟨value, rest', ?_, ?_⟩
  · have hmem : (d.1, value) ∈ (layer.on layer.top).definitions := by simp [hagain]
    exact EnvironmentFile.exists_value_of_mem_bindings hmem
  · rw [hagain]
    refine Environment.defineAll_append_of_set (fun b hb => ?_) _
    have hname : b.1 ∈ before.map Prod.fst := hbefore' ▸ List.mem_map_of_mem hb
    obtain ⟨b', hb', hname⟩ := List.mem_map.1 hname
    rw [← hname]
    exact hset b' hb'

end Layer

/-! ## Runs side by side -/

namespace Workspace

variable {w : Workspace} {env : Environment} {loading again : Loading}
  {content : Option String} {contents front : List (Option String)} {layer : Layer}

theorem isSwitchedOff_of_extends {other : Environment} (h : env.Extends other)
    (hswitch : isSwitchedOff other = true) : isSwitchedOff env = true := by
  unfold isSwitchedOff at hswitch ⊢
  cases hvalue : other.get? switch with
  | none => simp [hvalue] at hswitch
  | some value => simpa [h switch value hvalue, hvalue] using hswitch

theorem isTesting_of_extends {other : Environment} (h : env.Extends other)
    (htesting : isTesting other = true) : isTesting env = true := by
  unfold isTesting at htesting ⊢
  cases hvalue : other.get? testVariable with
  | none => simp [hvalue] at htesting
  | some value => simpa [h testVariable value hvalue, hvalue] using htesting

/-- Nothing more is loaded. -/
def IsIdle (loading : Loading) : Prop :=
  loading.refusal ≠ none ∨ isSwitchedOff loading.environment = true

/-- The layer that a file becomes, if it is there and loading is not idle. -/
def layer? (content : Option String) (loading : Loading) : Option Layer :=
  match content, loading.refusal with
  | some content, none =>
    if isSwitchedOff loading.environment then none else some ⟨loading.environment, content⟩
  | _, _ => none

theorem layer?_eq_some_iff :
    layer? content loading = some layer ↔
      content = some layer.content ∧ layer.base = loading.environment ∧ ¬ IsIdle loading := by
  obtain ⟨base, text⟩ := layer
  unfold layer? IsIdle
  cases content with
  | none => simp
  | some content =>
    cases loading.refusal with
    | some refusal => simp
    | none => cases isSwitchedOff loading.environment <;> simp [and_comm, eq_comm]

theorem layer?_of_isIdle (h : IsIdle loading) : layer? content loading = none := by
  rw [Option.eq_none_iff_forall_ne_some]
  exact fun layer hlayer => (layer?_eq_some_iff.1 hlayer).2.2 h

/-- What is read again is the same file on top of what is set then. -/
theorem layer?_again (h : layer? content loading = some layer) (hidle : ¬ IsIdle again) :
    layer? content again = some (layer.on again.environment) :=
  layer?_eq_some_iff.2 ⟨(layer?_eq_some_iff.1 h).1, rfl, hidle⟩

section

variable [Library]

/-- Loading several files, of which some may be missing. -/
def loadAll (loading : Loading) (contents : List (Option String)) : Loading :=
  contents.foldl (fun loading content => loadFile content loading) loading

/-- The layers that files become. -/
def layersRead (loading : Loading) : List (Option String) → List Layer
  | [] => []
  | content :: contents =>
    (layer? content loading).toList ++ layersRead (loadFile content loading) contents

theorem loadFile_of_layer?_eq_none (h : layer? content loading = none) :
    loadFile content loading = loading := by
  unfold layer? at h
  unfold loadFile
  split at h <;> simp_all

theorem loadFile_of_layer?_eq_some (h : layer? content loading = some layer) :
    (loadFile content loading).environment = layer.top ∧
      (loadFile content loading).refusal =
        (EnvironmentFile.load layer.base layer.content).refusal := by
  obtain ⟨hcontent, hbase, hidle⟩ := layer?_eq_some_iff.1 h
  simp only [IsIdle, not_or, not_not, Bool.not_eq_true] at hidle
  simp [loadFile, hcontent, hidle, Layer.top, hbase]

theorem extends_loadFile (content : Option String) (loading : Loading) :
    (loadFile content loading).environment.Extends loading.environment := by
  cases h : layer? content loading with
  | none =>
    rw [loadFile_of_layer?_eq_none h]
    exact .refl _
  | some layer =>
    obtain ⟨_, hbase, _⟩ := layer?_eq_some_iff.1 h
    rw [(loadFile_of_layer?_eq_some h).1, ← hbase]
    exact layer.extends_top

theorem extends_loadAll (loading : Loading) (contents : List (Option String)) :
    (loadAll loading contents).environment.Extends loading.environment := by
  induction contents generalizing loading with
  | nil => exact .refl _
  | cons content contents ih => exact (extends_loadFile content loading).trans (ih _)

theorem loadAll_of_isIdle (h : IsIdle loading) (contents : List (Option String)) :
    loadAll loading contents = loading := by
  induction contents with
  | nil => rfl
  | cons content contents ih =>
    have hsame : loadFile content loading = loading :=
      loadFile_of_layer?_eq_none (layer?_of_isIdle h)
    rw [loadAll, List.foldl_cons, hsame]
    exact ih

theorem layersRead_of_isIdle (h : IsIdle loading) (contents : List (Option String)) :
    layersRead loading contents = [] := by
  induction contents with
  | nil => rfl
  | cons content contents ih =>
    have hnone : layer? content loading = none := layer?_of_isIdle h
    simp [layersRead, hnone, loadFile_of_layer?_eq_none hnone, ih]

/-- A file that stopped gets on in this environment: its value for the name at
which it stopped is accepted now. -/
def GetsOn (env : Environment) (layer : Layer) : Prop :=
  isSwitchedOff env = false ∧ ∃ d value, layer.stop? = some d ∧
    (layer.on env).value? d.1 = some value ∧ Environment.refusal? d.1 value = none

/-! ### One file -/

/-- A file that did not become a layer does not become one with more set. -/
theorem loadFile_again_of_layer?_eq_none (h : layer? content loading = none)
    (hrefusal : loading.refusal = none) (henv : again.environment.Extends loading.environment) :
    loadFile content again = again := by
  refine loadFile_of_layer?_eq_none (Option.eq_none_iff_forall_ne_some.2 fun layer hlayer => ?_)
  obtain ⟨hcontent, _, hagain⟩ := layer?_eq_some_iff.1 hlayer
  have hidle : ¬ IsIdle loading := by
    rintro (hstopped | hswitch)
    · exact hstopped hrefusal
    · exact hagain (.inr (isSwitchedOff_of_extends henv hswitch))
  have hread : layer? content loading = some ⟨loading.environment, layer.content⟩ :=
    layer?_eq_some_iff.2 ⟨hcontent, rfl, hidle⟩
  simp [hread] at h

/-- A file that does not stop changes nothing when it is loaded again. -/
theorem loadFile_again_of_no_stop (hrefusal : loading.refusal = none)
    (hstop : ∀ layer, layer? content loading = some layer → layer.stop? = none)
    (henv : again.environment.Extends (loadFile content loading).environment) :
    (loadFile content loading).refusal = none ∧
      (loadFile content again).environment = again.environment ∧
      (loadFile content again).refusal = again.refusal := by
  cases hread : layer? content loading with
  | none =>
    rw [loadFile_of_layer?_eq_none hread] at henv ⊢
    rw [loadFile_again_of_layer?_eq_none hread hrefusal henv]
    exact ⟨hrefusal, rfl, rfl⟩
  | some layer =>
    obtain ⟨htop, hfirst⟩ := loadFile_of_layer?_eq_some hread
    have hended : (loadFile content loading).refusal = none :=
      hfirst.trans (Environment.defineAll_of_stop?_eq_none (hstop layer hread)).1
    refine ⟨hended, ?_⟩
    by_cases hidle : IsIdle again
    · simp [loadFile_of_layer?_eq_none (layer?_of_isIdle hidle)]
    · obtain ⟨hsame, hnone⟩ := Layer.top_on_of_stop?_eq_none (hstop layer hread) (htop ▸ henv)
      obtain ⟨htop', hrefusal'⟩ := loadFile_of_layer?_eq_some (layer?_again hread hidle)
      simp only [IsIdle, not_or, not_not] at hidle
      exact ⟨htop'.trans hsame, hrefusal'.trans (hnone.trans hidle.1.symm)⟩

section

variable {d : String × String} (hread : layer? content loading = some layer)
  (henv : again.environment = layer.top)

include hread henv

/-- A file that was stopped and does not get on is stopped again, at the same
place. -/
theorem loadFile_again_of_not_getsOn (hstop : layer.stop? = some d)
    (hgets : ¬ GetsOn layer.top layer) :
    (loadFile content again).environment = layer.top ∧ IsIdle (loadFile content again) := by
  by_cases hidle : IsIdle again
  · rw [loadFile_of_layer?_eq_none (layer?_of_isIdle hidle)]
    exact ⟨henv, hidle⟩
  · have hagain : layer? content again = some (layer.on layer.top) :=
      henv ▸ layer?_again hread hidle
    obtain ⟨htop, hrefusal⟩ := loadFile_of_layer?_eq_some hagain
    obtain ⟨hunset, _, value, rest, hvalue, hdefine⟩ :=
      Layer.defineAll_on_top_of_stop?_eq_some hstop
    simp only [IsIdle, not_or, not_not, Bool.not_eq_true, henv] at hidle
    obtain ⟨refusal, hrefused⟩ : ∃ refusal, Environment.refusal? d.1 value = some refusal := by
      refine Option.ne_none_iff_exists'.1 fun haccepted => hgets ?_
      exact ⟨hidle.2, d, value, hstop, hvalue, haccepted⟩
    have hall : layer.top.defineAll (layer.on layer.top).definitions =
        (layer.top, some refusal) := by
      simp [hdefine, Environment.defineAll, hunset, hrefused]
    have htop' := congrArg Prod.fst hall
    have hstopped : (loadFile content again).refusal = some refusal :=
      hrefusal.trans (congrArg Prod.snd hall)
    exact ⟨htop.trans htop', .inl (by simp [hstopped])⟩

/-- A file that gets on defines the name at which it was stopped. -/
theorem loadFile_again_of_getsOn (hgets : GetsOn layer.top layer)
    (hrefusal : again.refusal = none) :
    ∃ name, layer.top.get? name = none ∧
      ((loadFile content again).environment.get? name).isSome := by
  obtain ⟨hswitch, d, value, hstop, hvalue, haccepted⟩ := hgets
  have hidle : ¬ IsIdle again := by simp [IsIdle, hrefusal, henv, hswitch]
  have hagain : layer? content again = some (layer.on layer.top) :=
    henv ▸ layer?_again hread hidle
  obtain ⟨hunset, _, value', rest, hvalue', hdefine⟩ :=
    Layer.defineAll_on_top_of_stop?_eq_some hstop
  obtain rfl : value' = value := Option.some.inj (hvalue'.symm.trans hvalue)
  have hmade : layer.top.defineAll (layer.on layer.top).definitions =
      (layer.top.define d.1 value').defineAll rest := by
    rw [hdefine, Environment.defineAll, hunset, haccepted]
  have htop : (loadFile content again).environment =
      ((layer.top.define d.1 value').defineAll rest).1 :=
    (loadFile_of_layer?_eq_some hagain).1.trans (congrArg Prod.fst hmade)
  refine ⟨d.1, hunset, ?_⟩
  rw [htop]
  exact (Environment.extends_defineAll _ rest).isSome_get? (by simp)

end

/-! ### All files -/

/-- A run reads a file that does not stop and goes on, or ends with one that
stops. -/
theorem loadAll_cons_cases (loading : Loading) (content : Option String)
    (contents : List (Option String)) :
    (∀ layer, layer? content loading = some layer → layer.stop? = none) ∨
    ∃ layer d, layer? content loading = some layer ∧ layer.stop? = some d ∧
      layersRead loading (content :: contents) = [layer] ∧
      (loadAll loading (content :: contents)).environment = layer.top ∧
      (loadAll loading (content :: contents)).refusal ≠ none := by
  by_cases h : ∀ layer, layer? content loading = some layer → layer.stop? = none
  · exact .inl h
  · right
    simp only [not_forall] at h
    obtain ⟨layer, hread, hstop⟩ := h
    obtain ⟨d, hd⟩ := Option.ne_none_iff_exists'.1 hstop
    obtain ⟨htop, hfirst⟩ := loadFile_of_layer?_eq_some hread
    have hstopped : (loadFile content loading).refusal ≠ none :=
      hfirst ▸ (Layer.defineAll_on_top_of_stop?_eq_some hd).2.1
    have hlast : loadAll loading (content :: contents) = loadFile content loading :=
      loadAll_of_isIdle (.inl hstopped) contents
    refine ⟨layer, d, hread, hd, ?_, hlast ▸ htop, hlast ▸ hstopped⟩
    simp [layersRead, hread, layersRead_of_isIdle (.inl hstopped)]

/-- **The same files again**: where no file that stopped gets on, no part of
the second run changes what the first has left. -/
theorem environment_loadAll_again (hrefusal : loading.refusal = none)
    (hgets : ∀ layer ∈ layersRead loading contents,
      ¬ GetsOn (loadAll loading contents).environment layer)
    (henv : again.environment = (loadAll loading contents).environment)
    (hfront : front <+: contents) :
    (loadAll again front).environment = (loadAll loading contents).environment := by
  induction contents generalizing loading again front with
  | nil =>
    obtain rfl := List.prefix_nil.1 hfront
    exact henv
  | cons content contents ih =>
    obtain rfl | ⟨others, rfl, hothers⟩ := List.prefix_cons_iff.1 hfront
    · exact henv
    · obtain hends | ⟨layer, d, hread, hstop, hlayers, htop, _⟩ :=
        loadAll_cons_cases loading content contents
      · have hlast : again.environment.Extends (loadFile content loading).environment :=
          henv ▸ extends_loadAll (loadFile content loading) contents
        obtain ⟨hended, hsame, _⟩ := loadFile_again_of_no_stop hrefusal hends hlast
        have hrest := ih hended
          (fun layer hlayer => hgets layer (List.mem_append_right _ hlayer))
          (hsame.trans henv) hothers
        exact hrest
      · rw [htop] at henv ⊢
        rw [hlayers, htop] at hgets
        obtain ⟨hsame, hidle⟩ := loadFile_again_of_not_getsOn hread henv hstop
          (hgets layer List.mem_cons_self)
        rw [← hsame, loadAll, List.foldl_cons]
        exact congrArg Loading.environment (loadAll_of_isIdle hidle others)

/-- **A file that gets on**: then the second run sets what the first did
not. -/
theorem exists_isSome_loadAll_again (hrefusal : loading.refusal = none)
    (hlayer : layer ∈ layersRead loading contents)
    (hgets : GetsOn (loadAll loading contents).environment layer)
    (henv : again.environment = (loadAll loading contents).environment)
    (hagain : again.refusal = none) :
    ∃ name, (loadAll loading contents).environment.get? name = none ∧
      ((loadAll again contents).environment.get? name).isSome := by
  induction contents generalizing loading again with
  | nil => simp [layersRead] at hlayer
  | cons content contents ih =>
    obtain hends | ⟨layer', d, hread, hstop, hlayers, htop, _⟩ :=
      loadAll_cons_cases loading content contents
    · have hlast : again.environment.Extends (loadFile content loading).environment :=
        henv ▸ extends_loadAll (loadFile content loading) contents
      obtain ⟨hended, hsame, hnone⟩ := loadFile_again_of_no_stop hrefusal hends hlast
      obtain hhere | hlater := List.mem_append.1 hlayer
      · obtain ⟨_, _, _, hstop, _⟩ := hgets
        simp [hends layer (Option.mem_toList.1 hhere)] at hstop
      · have hrest := ih hended hlater hgets (hsame.trans henv) (hnone.trans hagain)
        exact hrest
    · rw [hlayers, List.mem_singleton] at hlayer
      subst hlayer
      rw [htop] at henv hgets ⊢
      obtain ⟨name, hunset, hset⟩ := loadFile_again_of_getsOn hread henv hgets hagain
      exact ⟨name, hunset, (extends_loadAll _ contents).isSome_get? hset⟩

/-- A run that is not stopped has read no file that stops. -/
theorem stop?_eq_none_of_refusal_loadAll (hrefusal : loading.refusal = none)
    (hended : (loadAll loading contents).refusal = none)
    (hlayer : layer ∈ layersRead loading contents) : layer.stop? = none := by
  induction contents generalizing loading with
  | nil => simp [layersRead] at hlayer
  | cons content contents ih =>
    obtain hends | ⟨_, _, _, _, _, _, hstopped⟩ := loadAll_cons_cases loading content contents
    · obtain ⟨hfirst, _⟩ := loadFile_again_of_no_stop hrefusal hends
        (Environment.Extends.refl (loadFile content loading).environment)
      obtain hhere | hlater := List.mem_append.1 hlayer
      · exact hends layer (Option.mem_toList.1 hhere)
      · exact ih hfirst hended hlater
    · exact absurd hended hstopped

end

/-! ## The same surroundings again -/

/-- The files that come before it matters whether a test is running. -/
def firstCandidates (w : Workspace) : List (Option String) :=
  [w.files.nearest? ".env" w.directory, w.files.get? (w.directory ++ [".env.local"])]

section

variable [Library]

/-- The files that a run looks for, in their order. -/
def candidates (w : Workspace) : List (Option String) :=
  w.firstCandidates ++
    if isTesting w.beforeTest.environment then [w.files.get? (w.directory ++ [".env.test"])]
    else []

theorem load_eq_loadAll (w : Workspace) :
    w.load = loadAll { environment := w.environment } w.candidates := by
  rw [load_eq, candidates]
  split <;> rfl

theorem beforeTest_eq_loadAll (w : Workspace) :
    w.beforeTest = loadAll { environment := w.environment } w.firstCandidates := rfl

/-- The same surroundings with the environment that loading the files
leaves. -/
def reload (w : Workspace) : Workspace := { w with environment := w.load.environment }

/-- The run was stopped by a file that gets on the next time. -/
def Resumes (w : Workspace) : Prop :=
  ∃ layer ∈ layersRead { environment := w.environment } w.candidates,
    GetsOn w.load.environment layer

theorem extends_load (w : Workspace) :
    w.load.environment.Extends w.beforeTest.environment ∧
      w.load.environment.Extends w.environment := by
  have hbefore : w.load.environment.Extends w.beforeTest.environment := by
    rw [load_eq]
    split
    · exact extends_loadFile _ _
    · exact .refl _
  refine ⟨hbefore, ?_⟩
  rw [beforeTest_eq_loadAll] at hbefore
  exact (extends_loadAll _ w.firstCandidates).trans hbefore

/-- Whether a test is running is known once it matters. -/
theorem isTesting_load (w : Workspace) :
    isTesting w.load.environment = isTesting w.beforeTest.environment := by
  by_cases htesting : isTesting w.beforeTest.environment = true
  · rw [htesting, isTesting_of_extends w.extends_load.1 htesting]
  · rw [load_eq, if_neg htesting]

theorem firstCandidates_prefix (w : Workspace) : w.firstCandidates <+: w.candidates :=
  List.prefix_append _ _

/-- The second run looks for all files that the first did. -/
theorem candidates_prefix_reload (w : Workspace) : w.candidates <+: w.reload.candidates := by
  have hextends : w.reload.beforeTest.environment.Extends w.load.environment :=
    extends_loadAll { environment := w.load.environment } w.firstCandidates
  unfold candidates
  by_cases htesting : isTesting w.beforeTest.environment = true
  · have hagain : isTesting w.reload.beforeTest.environment = true :=
      isTesting_of_extends (w.extends_load.1.trans hextends) htesting
    rw [if_pos htesting, if_pos hagain]
    exact List.prefix_rfl
  · rw [if_neg htesting, List.append_nil]
    exact List.prefix_append _ _

theorem load_reload_of_not_resumes (h : ¬ w.Resumes) :
    w.reload.load.environment = w.load.environment := by
  have hgets : ∀ layer ∈ layersRead { environment := w.environment } w.candidates,
      ¬ GetsOn (loadAll { environment := w.environment } w.candidates).environment layer := by
    rw [← load_eq_loadAll]
    exact fun layer hlayer hon => h ⟨layer, hlayer, hon⟩
  have hsame : ∀ front, front <+: w.candidates →
      (loadAll { environment := w.load.environment } front).environment =
        w.load.environment := by
    intro front hfront
    rw [load_eq_loadAll w]
    exact environment_loadAll_again rfl hgets rfl hfront
  have hbefore : w.reload.beforeTest.environment = w.load.environment :=
    hsame _ w.firstCandidates_prefix
  have hcandidates : w.reload.candidates = w.candidates := by
    rw [candidates, hbefore, isTesting_load]
    rfl
  rw [load_eq_loadAll w.reload, hcandidates]
  exact hsame _ List.prefix_rfl

theorem load_reload_of_resumes (h : w.Resumes) :
    w.reload.load.environment ≠ w.load.environment := by
  obtain ⟨layer, hlayer, hgets⟩ := h
  have henv : ({ environment := w.load.environment } : Loading).environment =
      (loadAll { environment := w.environment } w.candidates).environment := by
    rw [← load_eq_loadAll]
  rw [load_eq_loadAll] at hgets
  obtain ⟨name, hunset, hset⟩ := exists_isSome_loadAll_again rfl hlayer hgets henv rfl
  obtain ⟨others, hothers⟩ := w.candidates_prefix_reload
  have hlast : w.reload.load =
      loadAll (loadAll { environment := w.load.environment } w.candidates) others := by
    rw [load_eq_loadAll w.reload, ← hothers, loadAll, List.foldl_append]
    rfl
  intro heq
  rw [← load_eq_loadAll, ← heq, hlast] at hunset
  have hstays := (extends_loadAll _ others).isSome_get? hset
  simp [hunset] at hstays

/-- **Loading twice**: loading the files any number of times more leaves the
environment as the first time left it, exactly if the first time was not
stopped by a file that gets on now.  A first time that was not stopped at all
is never of that kind.  What the first time set stays in any case. -/
theorem load_idempotent_iff (w : Workspace) :
    ((∀ n, (reload^[n + 1] w).environment = w.load.environment ∧
        Settings.ofEnvironment (reload^[n + 1] w).environment =
          Settings.ofEnvironment w.load.environment) ↔ ¬ w.Resumes) ∧
    (w.load.refusal = none → ¬ w.Resumes) ∧
    ∀ n, (reload^[n + 1] w).environment.Extends w.load.environment := by
  refine ⟨⟨fun h hresumes => ?_, fun h n => ?_⟩, ?_, fun n => ?_⟩
  · exact load_reload_of_resumes hresumes (h 1).1
  · have hfixed : reload w.reload = w.reload := by
      rw [reload, load_reload_of_not_resumes h]
      rfl
    rw [Function.iterate_succ_apply, Function.iterate_fixed hfixed]
    exact ⟨rfl, rfl⟩
  · intro hended ⟨layer, hlayer, _, _, _, hstop, _⟩
    rw [load_eq_loadAll] at hended
    simp [stop?_eq_none_of_refusal_loadAll rfl hended hlayer] at hstop
  · induction n with
    | zero => exact .refl _
    | succ n ih =>
      rw [Function.iterate_succ_apply']
      exact ih.trans (extends_load _).2

end

/-- A file that is stopped at the seed: it holds a reference to what is a null
character then, and is something else in the end. -/
def interrupted : Workspace where
  files := ⟨[([".env"], "A=\x00\nLEGEND_SEED=$\x7bA\x7d7\nA=")]⟩

/-- The second time the reference stands for what the first time defined, and
there is a seed. -/
theorem interrupted_resumes :
    interrupted.load.refusal = some .nullCharacter ∧
      interrupted.load.environment.get? "LEGEND_SEED" = none ∧
      interrupted.reload.load.environment.get? "LEGEND_SEED" = some "7" ∧
      Settings.ofEnvironment interrupted.load.environment = .ok {} ∧
      Settings.ofEnvironment interrupted.reload.load.environment = .ok { seed := some 7 } := by
  decide +kernel

end Workspace

end Dicebag
