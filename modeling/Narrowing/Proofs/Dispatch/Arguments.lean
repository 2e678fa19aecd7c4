import Narrowing.Proofs.Code.Signature
import Narrowing.Proofs.Dispatch.Names
/-!
# How the calls of a specialized function are bound

A specialized function is made without defaults, as if each of its parameters were required,
and is then given those of the original as they are: the positional ones by their places, the
others by their names. Nothing of them is evaluated again.

The names are what may go wrong. A method of a class knows its private parameters by names
that begin with that of the class, and so do its keyword defaults and its callers. The
specialized function stands outside of the class and knows them by the names as they are
written. **Calls are bound as before just if no parameter that an argument can be given to by
name is private to the class** (`specialize_binds`).
-/

namespace Narrowing

open Code Run

/-! ## Calls -/

/-- **The parameters of a function** by the names that its calls use. -/
def Function.signature (f : Function) : Signature :=
  (Signature.ofFunction f.definition).rename f.site.mangled

/-- **How a call of a function is bound**, if it fits. -/
def Function.bound? (f : Function) (args : List Value) (keywords : List (String × Value)) :
    Option (BoundCall Value) :=
  f.signature.bind? (f.defaults.getD []) (f.kwDefaults.getD []) args keywords

/-- A call starts with what it is bound to, and one that does not fit is refused. -/
theorem arguments_eq (f : Function) (args : List Value) (keywords : List (String × Value)) :
    arguments f args keywords =
      match f.bound? args keywords with
      | none => throw .wrongType
      | some call => do
        let rest ← f.signature.rest.toList.mapM fun name =>
          return (name, ← tellApart (.ofTuple call.rest))
        match f.signature.keywordRest with
        | none => return call.named ++ rest
        | some name => return call.named ++ rest ++ [(name, ← namesDict call.keywords)] := rfl

/-- **A function whose definition is read as it is**: from its text come its parameters, whose
names differ, and its keyword defaults are those of parameters that only a keyword fills. -/
structure Function.IsReadAs (f : Function) (n : Node) : Prop where
  signature : Signature.ofFunction n = Signature.ofFunction f.definition
  distinct : f.signature.single.Nodup
  keywordDefaults : ∀ b ∈ f.kwDefaults.getD [],
    b.1 ∈ (Signature.ofFunction f.definition).keywordOnly.map f.site.mangled

instance (f : Function) (n : Node) : Decidable (f.IsReadAs n) :=
  decidable_of_iff (Signature.ofFunction n = Signature.ofFunction f.definition ∧
      f.signature.single.Nodup ∧ ∀ b ∈ f.kwDefaults.getD [],
        b.1 ∈ (Signature.ofFunction f.definition).keywordOnly.map f.site.mangled)
    ⟨fun h => ⟨h.1, h.2.1, h.2.2⟩, fun h => ⟨h.signature, h.distinct, h.keywordDefaults⟩⟩

/-- A private name is no other one in its class. -/
theorem privateName_privateName (owner name : String) :
    privateName owner (privateName owner name) = privateName owner name := by
  by_cases hprivate : privateName owner name = name
  · rw [hprivate, hprivate]
  · -- behind the one underscore stands a character of the class that is none
    obtain ⟨stem, cs, hname, hstem⟩ : ∃ stem cs, privateName owner name =
        String.ofList ('_' :: (stem ++ cs)) ∧ ['_', '_'].isPrefixOf ('_' :: (stem ++ cs)) = false := by
      unfold privateName at hprivate ⊢
      dsimp only at hprivate ⊢
      split at hprivate
      · next hcond =>
        rw [if_pos hcond]
        refine ⟨_, _, rfl, ?_⟩
        have hne : owner.toList.dropWhile (· = '_') ≠ [] := by
          simp only [Bool.and_eq_true, Bool.not_eq_true', List.isEmpty_eq_false_iff] at hcond
          exact hcond.2
        obtain ⟨c, rest, hstem⟩ := List.exists_cons_of_ne_nil hne
        have hc := List.head?_dropWhile_not (· = '_') owner.toList
        rw [hstem] at hc ⊢
        have hother : ('_' == c) = false := by
          rw [beq_eq_false_iff_ne]
          rintro rfl
          simp at hc
        show ('_' == '_' && ('_' == c && List.isPrefixOf [] (rest ++ name.toList))) = false
        rw [hother]
        rfl
      · exact absurd rfl hprivate
    rw [hname]
    unfold privateName
    dsimp only
    rw [String.toList_ofList, hstem]
    rfl

theorem Site.mangled_mangled (c : Site) (name : String) :
    c.mangled (c.mangled name) = c.mangled name := by
  unfold Site.mangled
  cases c.owner with
  | none => rfl
  | some owner => exact privateName_privateName owner name

/-- A specialized function has the parameters of the text of the original, by their names as
they are written, and evaluates no default. -/
theorem Variant.Installed.signature_eq {w : Variant} {σ : Store} {new : Function} {n : Node}
    (hinstalled : w.Installed σ new) (hw : w.subject.IsRead)
    (hn : w.subject.function.readDefinition = .ok n) :
    new.signature = Signature.ofFunction n ∧
      ∃ name isAsync parameters body, new.definition = .functionDef name isAsync parameters body [] [] ∧
        ∀ c, parameters.meaning.defaults c = pure ([], []) := by
  obtain ⟨isAsync, parameters, body, decorators, returns, rfl, hdefinition, hparameters, -⟩ :=
    hw.collects hn
  have hnew := hinstalled.definition.trans (bareDefinition_eq hdefinition)
  have hmangled : new.site.mangled = id := by
    funext name
    rw [Site.mangled, hinstalled.owner]
    rfl
  refine ⟨?_, _, _, _, _, hnew, fun c => (meaning_bareParameters hparameters c).1⟩
  rw [Function.signature, hnew, hmangled]
  have hrename : ∀ s : Signature, s.rename id = s := fun s => by simp [Signature.rename]
  rw [hrename]
  exact (bareParameters_spec hparameters).1

/-- **The calls of a specialized function are bound like those of the original**, with the same
defaults, to the parameters by their names as they are written, just if the class of the
original has no other names for those that an argument can be given to by name. -/
theorem specialize_binds {s s' : Session} {g : Generator Spelling Class Predicate}
    {counters counters' : Counters} {c : Site} {hasSource : Bool} {original v : Value}
    {var : String} {types : List TypeDescriptor} {notes : List (Note Spelling)}
    (h : s.run (g.specialize counters c hasSource original var types) =
      (.ok (⟨notes, .ok v⟩, counters'), s')) :
    ∃ f new n, s.store.cell? original = some (.function f) ∧
      s'.store.cell? v = some (.function new) ∧ f.readDefinition = .ok n ∧ new.TakesOver f ∧
      (∃ name isAsync parameters body,
        new.definition = .functionDef name isAsync parameters body [] [] ∧
          ∀ c, parameters.meaning.defaults c = pure ([], [])) ∧
      (f.IsReadAs n →
        ((∀ args keywords, f.bound? args keywords =
            (new.bound? args keywords).map (BoundCall.rename f.site.mangled)) ↔
          ∀ name ∈ (Signature.ofFunction n).byName, f.site.mangled name = name)) := by
  obtain ⟨w, new, hf, hw, -, hnew, hinstalled⟩ := specialize_spec h
  obtain ⟨n, hn⟩ : ∃ n, w.subject.function.readDefinition = .ok n := by
    obtain ⟨_, _, _, _, _, hn, -⟩ := hw
    exact ⟨_, hn⟩
  obtain ⟨hsignature, hdefaults⟩ := hinstalled.signature_eq hw hn
  have htakes := hinstalled.takesOver
  refine ⟨w.subject.function, new, n, hf, hnew, hn, htakes, hdefaults, fun hread => ?_⟩
  generalize w.subject.function = f at hf hn htakes hread ⊢
  have hnewBound : ∀ args keywords, new.bound? args keywords =
      (Signature.ofFunction n).bind? (f.defaults.getD []) (f.kwDefaults.getD []) args keywords := by
    intro args keywords
    rw [Function.bound?, hsignature, htakes.defaults, htakes.kwDefaults]
  have hbound : ∀ args keywords, f.bound? args keywords =
      ((Signature.ofFunction n).rename f.site.mangled).bind? (f.defaults.getD [])
        (f.kwDefaults.getD []) args keywords := by
    intro args keywords
    rw [Function.bound?, Function.signature, hread.signature]
  have hdistinct : ((Signature.ofFunction n).single.map f.site.mangled).Nodup := by
    have := hread.distinct
    rwa [Function.signature, ← hread.signature, Signature.single_rename] at this
  constructor
  · -- another name shows in the call that uses it
    intro halike name hname
    by_contra hne
    obtain ⟨args, keywords, call, hcall, hnothing, hother⟩ :=
      Signature.exists_call_of_renamed (f.defaults.getD []) (f.kwDefaults.getD []) hdistinct
        f.site.mangled_mangled Value.none hname hne
    have hsame := halike args keywords
    rw [hbound, hcall, hnewBound] at hsame
    obtain ⟨call', hcall', rfl⟩ := Option.map_eq_some_iff.1 hsame.symm
    exact hother call' hcall' hnothing
  · intro hfixed args keywords
    have hkeyword : ∀ b ∈ f.kwDefaults.getD [], b.1 ∈ (Signature.ofFunction n).keywordOnly := by
      intro b hb
      obtain ⟨name, hname, hmangled⟩ := List.mem_map.1 (hread.keywordDefaults b hb)
      rw [← hread.signature] at hname
      rwa [← hmangled, hfixed name (List.mem_append_right _ hname)]
    rw [hbound, hnewBound]
    exact Signature.rename_bind? hdistinct hfixed hkeyword keywords

/-! ## A method with a private parameter -/

/-- The definition of a class `K` with a method `m`, whose private parameter has a default. -/
def secretive : Node :=
  .classDef "K" [] [] [.functionDef "m" false
    (.arguments [] [.arg "self" [], .arg "v" []] [] [.arg "__x" []] [.constant (.int 5)] [] [])
    [.returnStmt [.load "__x"]] [] []] []

/-- A session in which that class is defined in a module. -/
def secretiveSession : Session := (Session.run {} (loadModule "m" [] [secretive])).2

/-- The method is specialized on `v` for integers. -/
def specializeSecretive : Run (Logged (Note Spelling) SpecializeFault Value × Counters) :=
  Generator.specialize { oracle := defaultDecider, table := defaultTable } {}
    { module := "m", globals := ⟨0⟩ } true (.ref ⟨3⟩) "v" [StandardClass.int.descriptor]

/-- Whether a function is read as it is and has the parameter under another name. -/
def Store.hides (σ : Store) (v : Value) (name : String) : Bool :=
  match σ.cell? v with
  | some (.function f) =>
    match f.readDefinition with
    | .ok n => decide (f.IsReadAs n) && (Signature.ofFunction n).byName.contains name &&
        f.site.mangled name != name
    | .error _ => false
  | _ => false

/-- Whether a call of a function by position alone fits. -/
def Store.takes (σ : Store) (v : Value) (args : List Value) : Bool :=
  match σ.cell? v with
  | some (.function f) => (f.bound? args []).isSome
  | _ => false

theorem secretive_evaluated : (match secretiveSession.run specializeSecretive with
      | (.ok (⟨_, .ok v⟩, _), s') => some (s'.store.takes v [.none, .ofInt 3])
      | _ => none) = some false ∧
    secretiveSession.store.takes (.ref ⟨3⟩) [.none, .ofInt 3] = true ∧
    secretiveSession.store.hides (.ref ⟨3⟩) "__x" = true := by
  decide +kernel

/-- So its calls are not bound as before: one that leaves the parameter to its default is
refused. -/
theorem specialize_binds_secretive : ∃ notes v counters s' f new,
    secretiveSession.run specializeSecretive = (.ok (⟨notes, .ok v⟩, counters), s') ∧
      secretiveSession.store.cell? (.ref ⟨3⟩) = some (.function f) ∧
      s'.store.cell? v = some (.function new) ∧ new.TakesOver f ∧
      (f.bound? [.none, .ofInt 3] []).isSome ∧ new.bound? [.none, .ofInt 3] [] = none ∧
      ¬ ∀ args keywords, f.bound? args keywords =
        (new.bound? args keywords).map (BoundCall.rename f.site.mangled) := by
  obtain ⟨hrefused, htaken, hhidden⟩ := secretive_evaluated
  obtain ⟨notes, v, counters, s', hrun⟩ : ∃ notes v counters s',
      secretiveSession.run specializeSecretive = (.ok (⟨notes, .ok v⟩, counters), s') := by
    rcases hrun : secretiveSession.run specializeSecretive with
      ⟨_ | ⟨⟨notes, _ | v⟩, counters⟩, s'⟩
    · rw [hrun] at hrefused
      cases hrefused
    · rw [hrun] at hrefused
      cases hrefused
    · exact ⟨notes, v, counters, s', rfl⟩
  rw [hrun] at hrefused
  obtain ⟨f, new, n, hf, hnew, hn, htakes, -, hbinds⟩ := specialize_binds hrun
  unfold Store.takes at hrefused htaken
  unfold Store.hides at hhidden
  dsimp only at hrefused htaken hhidden
  rw [hnew] at hrefused
  rw [hf] at htaken hhidden
  dsimp only at hrefused htaken hhidden
  rw [hn] at hhidden
  simp only [Bool.and_eq_true, decide_eq_true_iff, List.contains_iff_mem, bne_iff_ne] at hhidden
  obtain ⟨⟨hread, hname⟩, hne⟩ := hhidden
  refine ⟨notes, v, counters, s', f, new, hrun, hf, hnew, htakes, htaken, ?_, fun halike => ?_⟩
  · exact Option.isSome_eq_false_iff.1 (Option.some.inj hrefused) |> Option.isNone_iff_eq_none.1
  · exact hne ((hbinds hread).1 halike "__x" hname)

end Narrowing
