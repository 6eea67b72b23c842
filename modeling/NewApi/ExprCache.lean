import Mathlib.Data.List.AList
import NewApi.ClaudeBilling
import NewApi.Interleaving

/-!
The cache of compiled billing expressions (pkg/billingexpr/compile.go). A step is one section
under the mutex; what a call computes between two sections belongs to the section before them.
Compiling belongs to the expr library: `compile` is the tree of the program it makes of an
expression. `UsedVars` reads the variables back from the cache after it has compiled the
expression into it, so it returns none when the cache was emptied in between.
-/

namespace NewApi.ExprCache

open Interleaving Runs

/-- A syntax tree: the identifiers, and nodes of every other kind. -/
inductive Node where
  | identifier (value : String)
  | other (children : List Node)

/-- `exprHashString` is a SHA-256 digest, taken to name its expression. -/
structure Library where
  compile : String → Option Node
  exprHashString : String → String
  distinct : Function.Injective exprHashString

mutual
/-- `ast.Find` with a visitor that never stops it. -/
def extractUsedVars : Node → List String
  | .identifier value => [value]
  | .other children => extractAll children

def extractAll : List Node → List String
  | [] => []
  | node :: rest => extractUsedVars node ++ extractAll rest
end

/-- The cached variables by digest; `emptied` and `answers` are history that no call reads. -/
structure Store where
  cache : AList fun _ : String => List String := ∅
  emptied : Nat := 0
  answers : List (String × Option (List String) × Bool) := []

variable (store : Store)

/-- An answer of `UsedVars` says as well whether the cache was emptied since it compiled. -/
def Store.answer (expr : String) (vars : Option (List String)) (disturbed : Bool) : Store :=
  { store with answers := (expr, vars, disturbed) :: store.answers }

def Store.empty : Store :=
  { store with cache := ∅, emptied := store.emptied + 1 }

inductive Call where
  | usedVars (expr : String)
  -- `reads` when the caller is `UsedVars`.
  | compileFromCache (expr : String) (reads : Bool)
  | fill (expr : String) (vars : List String) (reads : Bool)
  | readBack (expr : String) (compiled : Nat)
  deriving DecidableEq

def maxCacheSize : Nat := 256

def Store.room : Store :=
  if maxCacheSize ≤ store.cache.keys.length then store.empty else store

/-- The body behind the version tag, of which there is one. -/
def parseExprVersion (expr : String) : String :=
  if "v1:".toList.isPrefixOf expr.toList then String.ofList (expr.toList.drop 3) else expr

def Library.treeOf (library : Library) (expr : String) : Option Node :=
  library.compile (parseExprVersion expr)

def Library.cached (library : Library) (store : Store) (expr : String) : Option (List String) :=
  store.cache.lookup (library.exprHashString expr)

def Library.fill (library : Library) (store : Store) (expr : String) (vars : List String) : Store :=
  { store with cache := store.cache.insert (library.exprHashString expr) vars }

def resume (library : Library) (store : Store) : Call → Store × Option Call
  | .usedVars expr =>
    if expr = "" then (store.answer expr none false, none)
    else match library.cached store expr with
      | some vars => (store.answer expr (some vars) false, none)
      | none => (store, some (.compileFromCache expr true))
  | .compileFromCache expr reads =>
    match library.cached store expr with
    | some _ => (store, if reads then some (.readBack expr store.emptied) else none)
    | none =>
      match library.treeOf expr with
      | none => (if reads then store.answer expr none false else store, none)
      | some tree => (store, some (.fill expr (extractUsedVars tree) reads))
  | .fill expr vars reads =>
    (library.fill store.room expr vars,
      if reads then some (.readBack expr store.room.emptied) else none)
  | .readBack expr compiled =>
    (store.answer expr (library.cached store expr) (store.emptied ≠ compiled), none)

inductive Move where
  | usedVars (expr : String)
  | compileFromCache (expr : String)
  | invalidateCache

def environment : Move → Store × List Call
  | .usedVars expr => (store, [.usedVars expr])
  | .compileFromCache expr => (store, [.compileFromCache expr false])
  | .invalidateCache => (store.empty, [])

def program (library : Library) : Program Store Call Move := ⟨resume library, environment⟩

inductive Occurs (name : String) : Node → Prop
  | here : Occurs name (.identifier name)
  | inside {child : Node} {children : List Node} (member : child ∈ children)
      (occurs : Occurs name child) : Occurs name (.other children)

variable {library : Library}
variable {name expr : String} {store} {vars : List String} {disturbed : Bool} {call : Call}

mutual
theorem mem_extractUsedVars : (node : Node) → (name ∈ extractUsedVars node ↔ Occurs name node)
  | .identifier value => by
    rw [extractUsedVars, List.mem_singleton]
    refine ⟨fun same => same ▸ .here, fun occurs => ?_⟩
    cases occurs
    rfl
  | .other children => by
    rw [extractUsedVars, mem_extractAll children]
    refine ⟨fun ⟨_, member, occurs⟩ => .inside member occurs, fun occurs => ?_⟩
    cases occurs with
    | inside member occurs => exact ⟨_, member, occurs⟩

theorem mem_extractAll : (nodes : List Node) →
    (name ∈ extractAll nodes ↔ ∃ node ∈ nodes, Occurs name node)
  | [] => by simp [extractAll]
  | node :: rest => by
    simp [extractAll, mem_extractUsedVars node, mem_extractAll rest]
end

/-- The variables are those of the tree that the expression compiles to. -/
def Own (library : Library) (expr : String) (vars : List String) : Prop :=
  ∃ tree, library.treeOf expr = some tree ∧ ∀ name, name ∈ vars ↔ Occurs name tree

/-- A call on an expression that compiles returns its variables. -/
def Exact (library : Library) (expr : String) (answer : Option (List String)) : Prop :=
  expr ≠ "" → (library.treeOf expr).isSome = true →
    ∃ vars, answer = some vars ∧ Own library expr vars

/-! The invariant: a cached entry belongs to the expression of its digest, and an entry that a
call is about to read back is there unless the cache was emptied. -/

structure Sound (library : Library) (store : Store) : Prop where
  entries : ∀ expr vars, library.cached store expr = some vars → Own library expr vars
  answers : ∀ answer ∈ store.answers,
    (answer.2.2 = false → Exact library answer.1 answer.2.1) ∧
      ∀ vars, answer.2.1 = some vars → Own library answer.1 vars

def Fits (library : Library) (store : Store) : Call → Prop
  | .fill expr vars _ => Own library expr vars
  | .readBack expr compiled => compiled ≤ store.emptied ∧
      (compiled = store.emptied → (library.cached store expr).isSome = true)
  | _ => True

theorem cached_fill (expr other : String) :
    library.cached (library.fill store expr vars) other =
      if other = expr then some vars else library.cached store other := by
  by_cases same : other = expr
  · subst same
    rw [if_pos rfl, Library.cached, Library.fill, AList.lookup_insert]
  · have digests : library.exprHashString other ≠ library.exprHashString expr :=
      fun clash => same (library.distinct clash)
    rw [if_neg same, Library.cached, Library.fill, AList.lookup_insert_ne digests, Library.cached]

section

variable (sound : Sound library store)

include sound

theorem Sound.answer {vars : Option (List String)}
    (exact_ : disturbed = false → Exact library expr vars)
    (own : ∀ found, vars = some found → Own library expr found) :
    Sound library (store.answer expr vars disturbed) :=
  ⟨sound.entries, List.forall_mem_cons.mpr ⟨⟨exact_, own⟩, sound.answers⟩⟩

theorem Sound.empty : Sound library store.empty :=
  ⟨by simp [Library.cached, Store.empty], sound.answers⟩

theorem Sound.fill (own : Own library expr vars) :
    Sound library (library.fill store expr vars) := by
  refine ⟨fun other found cached => ?_, sound.answers⟩
  rw [cached_fill] at cached
  by_cases same : other = expr
  · subst same
    rw [if_pos rfl, Option.some.injEq] at cached
    exact cached ▸ own
  · rw [if_neg same] at cached
    exact sound.entries other found cached

end

theorem Own.exact (own : Own library expr vars) : Exact library expr (some vars) :=
  fun _ _ => ⟨vars, rfl, own⟩

theorem Fits.answer (fits : Fits library store call) {vars : Option (List String)} :
    Fits library (store.answer expr vars disturbed) call := by
  cases call <;> exact fits

theorem Fits.empty (fits : Fits library store call) :
    Fits library store.empty call := by
  cases call with
  | usedVars | compileFromCache => trivial
  | fill => exact fits
  | readBack expr compiled =>
    have bound : compiled ≤ store.emptied := fits.1
    refine ⟨Nat.le_succ_of_le bound, fun same => ?_⟩
    rw [same] at bound
    exact absurd bound (Nat.not_succ_le_self _)

theorem Fits.fill (fits : Fits library store call) :
    Fits library (library.fill store expr vars) call := by
  cases call with
  | usedVars | compileFromCache => trivial
  | fill => exact fits
  | readBack other compiled =>
    refine ⟨fits.1, fun same => ?_⟩
    rw [cached_fill]
    split
    · rfl
    · exact fits.2 same

/-- What one section does, and what the call and the others rely on afterwards. -/
theorem resume_spec (sound : Sound library store) (fits : Fits library store call) :
    Sound library (resume library store call).1 ∧
      (∀ next ∈ (resume library store call).2, Fits library (resume library store call).1 next) ∧
      ∀ other, Fits library store other → Fits library (resume library store call).1 other := by
  cases call with
  | usedVars expr =>
    simp only [resume]
    split
    · rename_i blank
      refine ⟨sound.answer (fun _ nonempty => absurd blank nonempty) nofun, nofun, ?_⟩
      exact fun _ kept => kept.answer
    cases found : library.cached store expr with
    | some vars =>
      have own := sound.entries expr vars found
      refine ⟨sound.answer (fun _ => own.exact) ?_, nofun, fun _ kept => kept.answer⟩
      rintro _ ⟨⟩
      exact own
    | none => exact ⟨sound, by simp [Fits], fun _ kept => kept⟩
  | compileFromCache expr reads =>
    simp only [resume]
    cases found : library.cached store expr with
    | some vars => exact ⟨sound, by cases reads <;> simp [Fits, found], fun _ kept => kept⟩
    | none =>
      cases compiled : library.treeOf expr with
      | some tree =>
        refine ⟨sound, ?_, fun _ kept => kept⟩
        rintro _ ⟨⟩
        exact ⟨tree, compiled, fun name => mem_extractUsedVars tree⟩
      | none =>
        have failed : Exact library expr none := by simp [Exact, compiled]
        cases reads with
        | false => exact ⟨sound, nofun, fun _ kept => kept⟩
        | true => exact ⟨sound.answer (fun _ => failed) nofun, nofun, fun _ kept => kept.answer⟩
  | fill expr vars reads =>
    have room : Sound library store.room ∧
        ∀ other, Fits library store other → Fits library store.room other := by
      unfold Store.room
      split
      · exact ⟨sound.empty, fun _ kept => kept.empty⟩
      · exact ⟨sound, fun _ kept => kept⟩
    refine ⟨room.1.fill fits, ?_, fun other kept => (room.2 other kept).fill⟩
    cases reads with
    | false => nofun
    | true =>
      rintro _ ⟨⟩
      exact ⟨Nat.le_refl _, fun _ => by simp [resume, cached_fill]⟩
  | readBack expr compiled =>
    refine ⟨sound.answer ?_ (sound.entries expr), nofun, fun _ kept => kept.answer⟩
    intro undisturbed
    have same : store.emptied = compiled := not_not.mp (of_decide_eq_false undisturbed)
    obtain ⟨vars, found⟩ := Option.isSome_iff_exists.mp (fits.2 same.symm)
    rw [found]
    exact (sound.entries expr vars found).exact

theorem preserved (library : Library) :
    Preserved (program library) (fun _ _ => True) (Sound library) (Fits library) where
  resume_good _ sound fits := (resume_spec sound fits).1
  resume_self _ sound fits next := (resume_spec sound fits).2.1 _ next
  resume_other _ sound fits other := (resume_spec sound fits).2.2 _ other
  environment_good := by
    rintro _ (_ | _ | _) - sound
    · exact sound
    · exact sound
    · exact sound.empty
  environment_new := by
    rintro _ (_ | _ | _) call - - started <;> simp [program, environment] at started <;>
      simp [started, Fits]
  environment_other := by
    rintro _ (_ | _ | _) call - - fits
    · exact fits
    · exact fits
    · exact fits.empty

/-- In every interleaving `UsedVars` returns the variables of its expression, unless the cache was
emptied between the section that compiled the expression and the one that reads them back; and
what it returns is never the set of another expression. -/
theorem usedVars_exact (library : Library) (events : List (Event Call Move)) :
    ∀ answer ∈ (run (step (program library)) ⟨{}, []⟩ events).shared.answers,
      (answer.2.2 = false → Exact library answer.1 answer.2.1) ∧
        ∀ vars, answer.2.1 = some vars → Own library answer.1 vars :=
  ((preserved library).holds_run _ events (AllSteps.of_forall fun _ _ => trivial)
    ⟨⟨by simp [Library.cached], by simp⟩, by simp⟩).1.answers

def sampleLibrary : Library where
  compile body :=
    if body = "p*2+cr" then some (.other [.other [.identifier "p"], .identifier "cr"]) else none
  exprHashString := id
  distinct := fun _ _ same => same

def undisturbed : List (Event Call Move) :=
  schedule (program sampleLibrary) ⟨{}, []⟩
    [.inr (.usedVars "v1:p*2+cr"), .inl 0, .inl 0, .inl 0, .inl 0]

theorem undisturbed_exact : Exact sampleLibrary "v1:p*2+cr" (some ["p", "cr"]) :=
  (usedVars_exact sampleLibrary undisturbed ("v1:p*2+cr", some ["p", "cr"], false)
    (by decide +kernel)).1 rfl

/-- An invalidation between the two sections. -/
def invalidated : List (Event Call Move) :=
  schedule (program sampleLibrary) ⟨{}, []⟩
    [.inr (.usedVars "v1:p*2+cr"), .inl 0, .inl 0, .inl 0, .inr .invalidateCache, .inl 0]

/-- No variables are returned, and settlement then prices the cached tokens twice: as such and as
part of the prompt. -/
theorem invalidation_hides_variables :
    let answers := (run (step (program sampleLibrary)) ⟨{}, []⟩ invalidated).shared.answers
    let usage : Usage :=
      { promptTokens := 100, promptTokensDetails := { cachedTokens := 40 } }
    let price (used : List String) :=
      (ClaudeBilling.buildTieredTokenParams usage false used.contains).p
    answers = [("v1:p*2+cr", none, true)] ∧ ¬Exact sampleLibrary "v1:p*2+cr" none ∧
      price [] = 100 ∧ price ["p", "cr"] = 60 := by
  refine ⟨by decide +kernel, fun exact_ => ?_, by decide, by decide⟩
  obtain ⟨_, impossible, _⟩ := exact_ (by decide) (by decide +kernel)
  cases impossible

end NewApi.ExprCache
