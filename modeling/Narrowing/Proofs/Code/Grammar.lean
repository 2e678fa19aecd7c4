import Narrowing.Code.Grammar
import Narrowing.Proofs.Code.Part
/-!
# What is read as an expression

Whatever the tokens, what is read as an expression is one, all the way down. What a reader
gives is followed through its steps (`Reader.Reads`), and a layer of grammar is **proper**
if what nests inside expressions and statements is what it should be (`Grammar.IsProper`).
-/

namespace Narrowing.Code

variable {α β : Type}

namespace Reader

/-- **What a reader reads** has a property, whatever the tokens. -/
def Reads (P : α → Prop) (p : Reader α) : Prop :=
  ∀ ts a rest, p ts = .ok (a, rest) → P a

/-- What a reader reads, if it reads anything, has a property. -/
abbrev ReadsAny (P : α → Prop) (p : Reader (Option α)) : Prop := Reads (fun o => ∀ a ∈ o, P a) p

/-- What a reader reads as a list has a property throughout. -/
abbrev ReadsAll (P : α → Prop) (p : Reader (List α)) : Prop := Reads (fun as => ∀ a ∈ as, P a) p

variable {P : α → Prop} {Q : β → Prop} {p : Reader α} {f : α → Reader β}

theorem reads_pure {a : α} (h : P a) : Reads P (pure a) := by
  intro ts b rest hb
  obtain ⟨rfl, -⟩ := Prod.mk.inj (Except.ok.inj hb)
  exact h

theorem reads_stop : Reads P stop := by
  intro ts a rest h
  cases h

/-- Readers in sequence. -/
theorem Reads.bind (hp : Reads P p) (hf : ∀ a, P a → Reads Q (f a)) : Reads Q (p >>= f) := by
  intro ts b rest h
  change (p ts >>= fun r => f r.1 r.2) = _ at h
  cases hr : p ts with
  | error e =>
    rw [hr] at h
    cases h
  | ok r =>
    rw [hr] at h
    exact hf r.1 (hp ts r.1 r.2 hr) r.2 b rest h

/-- Readers in sequence, the first of which may read anything. -/
theorem reads_bind (hf : ∀ a, Reads Q (f a)) : Reads Q (p >>= f) :=
  Reads.bind (P := fun _ => True) (fun _ _ _ _ => trivial) fun a _ => hf a

/-- A choice between readers. -/
theorem reads_choose {test : Reader Bool} {yes no : Reader β} (hyes : Reads Q yes)
    (hno : Reads Q no) : Reads Q (do if ← test then yes else no) := by
  refine reads_bind fun b => ?_
  cases b
  · exact hno
  · exact hyes

theorem readsAny_some {a : α} (h : P a) : ReadsAny P (pure (some a)) :=
  reads_pure fun _ hb => Option.some.inj hb ▸ h

theorem readsAny_none : ReadsAny P (pure none : Reader (Option α)) :=
  reads_pure fun a ha => by cases ha

/-- A reader whose result is given on. -/
theorem Reads.some (h : Reads P p) : ReadsAny P (do return some (← p)) :=
  h.bind fun _ ha => readsAny_some ha

/-- Repetition. -/
theorem Reads.many {item : Reader (Option α)} (h : ReadsAny P item) : ReadsAll P (many item) := by
  have hwithin : ∀ n, ReadsAll P (manyWithin item n) := by
    intro n
    induction n with
    | zero => exact reads_pure fun a ha => absurd ha List.not_mem_nil
    | succ n ih =>
      refine h.bind fun o ho => ?_
      cases o with
      | none => exact reads_pure fun a ha => absurd ha List.not_mem_nil
      | some a => exact ih.bind fun as has => reads_pure (List.forall_mem_cons.2 ⟨ho a rfl, has⟩)
  exact fun ts as rest hts => hwithin ts.length ts as rest hts

/-- Items after commas. -/
theorem Reads.afterCommas {ends : Reader Bool} (h : Reads P p) :
    Reads (fun r => ∀ a ∈ r.1, P a) (afterCommas ends p) := by
  refine (Reads.many (P := P) ?_).bind fun as has => reads_bind fun _ => reads_pure has
  refine reads_choose ?_ readsAny_none
  refine reads_bind fun ts => reads_bind fun _ => reads_choose ?_ h.some
  exact reads_bind fun _ => readsAny_none

/-- What is extended to the right. -/
theorem Reads.extend {Q : Node → Prop} {step : Node → Reader (Option Node)} {left : Node}
    (hleft : Q left) (h : ∀ n, Q n → ReadsAny Q (step n)) : Reads Q (extend step left) := by
  have hwithin : ∀ n left, Q left → Reads Q (extendWithin step n left) := by
    intro n
    induction n with
    | zero => exact fun left hleft => reads_pure hleft
    | succ n ih =>
      intro left hleft
      refine (h left hleft).bind fun o ho => ?_
      cases o with
      | none => exact reads_pure hleft
      | some longer => exact ih longer (ho longer rfl)
  exact fun ts a rest hts => hwithin ts.length left hleft ts a rest hts

end Reader

open Reader Node

/-! ## Targets -/

mutual

theorem asTarget_is {ctx : Context} : (n : Node) → {t : Node} → n.Is .expression →
    asTarget ctx n = some t → t.Is .expression
  | .mk k ss, t, hn, h => by
    unfold asTarget at h
    split at h
    · next heq =>
      obtain ⟨rfl, rfl⟩ := Node.mk.inj heq
      obtain rfl := Option.some.inj h
      exact hn
    · next heq =>
      obtain ⟨rfl, rfl⟩ := Node.mk.inj heq
      obtain rfl := Option.some.inj h
      exact hn
    · next heq =>
      obtain ⟨rfl, rfl⟩ := Node.mk.inj heq
      obtain rfl := Option.some.inj h
      exact hn
    · next value heq =>
      obtain ⟨rfl, rfl⟩ := Node.mk.inj heq
      split at h
      · obtain ⟨v, hv, rfl⟩ := Option.map_eq_some_iff.1 h
        have hvalue := asTarget_is value (by simpa [Kind.part, Kind.slotParts] using hn) hv
        simpa [Kind.part, Kind.slotParts] using hvalue
      · cases h
    · next elements heq =>
      obtain ⟨rfl, rfl⟩ := Node.mk.inj heq
      obtain ⟨es, hes, rfl⟩ := Option.map_eq_some_iff.1 h
      have helements := asTargets_are elements (by simpa [Kind.part, Kind.slotParts] using hn) hes
      simpa [Kind.part, Kind.slotParts] using helements
    · next elements heq =>
      obtain ⟨rfl, rfl⟩ := Node.mk.inj heq
      obtain ⟨es, hes, rfl⟩ := Option.map_eq_some_iff.1 h
      have helements := asTargets_are elements (by simpa [Kind.part, Kind.slotParts] using hn) hes
      simpa [Kind.part, Kind.slotParts] using helements
    · cases h

theorem asTargets_are {ctx : Context} : (ns : List Node) → {ts : List Node} →
    AllAre .expression ns → asTargets ctx ns = some ts → AllAre .expression ts
  | [], ts, _, h => by
    obtain rfl := Option.some.inj h
    trivial
  | n :: ns, ts, hns, h => by
    unfold asTargets at h
    split at h
    · next m ms hm hms =>
      obtain rfl := Option.some.inj h
      exact ⟨asTarget_is n hns.1 hm, asTargets_are ns hns.2 hms⟩
    · cases h

end

theorem reads_requireTarget {ctx : Context} {n : Node} (hn : n.Is .expression) :
    Reads (Is .expression) (requireTarget ctx n) := by
  unfold requireTarget
  split
  · next t ht => exact reads_pure (asTarget_is n hn ht)
  · exact reads_stop

/-! ## Arguments and parameters -/

/-- An argument whose parts are expressions. -/
def Argument.IsProper : Argument → Prop
  | positional v | spread v | keyword _ v | spreadKeywords v | generator v => v.Is .expression

theorem Argument.positionals_are {items : List Argument} (h : ∀ a ∈ items, a.IsProper) :
    AllAre .expression (positionals items) := by
  refine allAre_iff.2 fun n hn => ?_
  obtain ⟨a, ha, heq⟩ := List.mem_filterMap.1 hn
  have hproper := h a ha
  cases a <;> cases heq <;> simpa [IsProper, Kind.part, Kind.slotParts] using hproper

theorem Argument.keywords_are {items : List Argument} (h : ∀ a ∈ items, a.IsProper) :
    AllAre .keyword (keywords items) := by
  refine allAre_iff.2 fun n hn => ?_
  obtain ⟨a, ha, heq⟩ := List.mem_filterMap.1 hn
  have hproper := h a ha
  cases a <;> cases heq <;> simpa [IsProper, Kind.part, Kind.slotParts] using hproper

namespace Parameter

/-- An entry of a parameter list whose parts are what they should be. -/
def IsProper : Parameter → Prop
  | plain n default => n.Is .parameter ∧ ∀ d ∈ default, d.Is .expression
  | doubleStar n => n.Is .parameter
  | star rest => ∀ n ∈ rest, n.Is .parameter
  | slash => True

/-- What is collected of proper entries. -/
structure Collected.IsProper (c : Collected) : Prop where
  posonly : AllAre .parameter c.posonly
  args : AllAre .parameter c.args
  defaults : AllAre .expression c.defaults
  vararg : AllAre .parameter c.vararg
  kwonly : AllAre .parameter c.kwonly
  kwDefaults : AllAre .expression c.kwDefaults
  kwarg : AllAre .parameter c.kwarg

theorem Collected.IsProper.add {c d : Collected} {p : Parameter} (hc : c.IsProper)
    (hp : p.IsProper) (h : Parameter.add c p = some d) : d.IsProper := by
  obtain ⟨hposonly, hargs, hdefaults, hvararg, hkwonly, hkwDefaults, hkwarg⟩ := hc
  cases p with
  | plain arg default =>
    obtain ⟨harg, hdefault⟩ := hp
    simp only [Parameter.add] at h
    split at h
    · cases h
    · split at h
      · obtain rfl := Option.some.inj h
        have habsent : (default.getD .absent).Is .expression := by
          cases default with
          | none => exact ⟨rfl, trivial⟩
          | some d => exact hdefault d rfl
        exact ⟨hposonly, hargs, hdefaults, hvararg, allAre_append.2 ⟨hkwonly, harg, trivial⟩,
          allAre_append.2 ⟨hkwDefaults, habsent, trivial⟩, hkwarg⟩
      · split at h
        · next d =>
          obtain rfl := Option.some.inj h
          exact ⟨hposonly, allAre_append.2 ⟨hargs, harg, trivial⟩,
            allAre_append.2 ⟨hdefaults, hdefault d rfl, trivial⟩, hvararg, hkwonly, hkwDefaults,
            hkwarg⟩
        · split at h
          · obtain rfl := Option.some.inj h
            exact ⟨hposonly, allAre_append.2 ⟨hargs, harg, trivial⟩, hdefaults, hvararg, hkwonly,
              hkwDefaults, hkwarg⟩
          · cases h
  | slash =>
    simp only [Parameter.add] at h
    split at h
    · cases h
    · obtain rfl := Option.some.inj h
      exact ⟨hargs, trivial, hdefaults, hvararg, hkwonly, hkwDefaults, hkwarg⟩
  | star arg =>
    simp only [Parameter.add] at h
    split at h
    · cases h
    · obtain rfl := Option.some.inj h
      exact ⟨hposonly, hargs, hdefaults, allAre_iff.2 fun n hn => hp n (Option.mem_toList.1 hn),
        hkwonly, hkwDefaults, hkwarg⟩
  | doubleStar arg =>
    simp only [Parameter.add] at h
    split at h
    · obtain rfl := Option.some.inj h
      exact ⟨hposonly, hargs, hdefaults, hvararg, hkwonly, hkwDefaults, hp, trivial⟩
    · cases h

theorem collect_is {items : List Parameter} {n : Node} (hitems : ∀ p ∈ items, p.IsProper)
    (h : collect items = some n) : n.Is .parameters := by
  have hfold : ∀ (items : List Parameter) (c d : Collected), c.IsProper →
      (∀ p ∈ items, p.IsProper) → items.foldlM Parameter.add c = some d → d.IsProper := by
    intro items
    induction items with
    | nil =>
      intro c d hc _ h
      obtain rfl := Option.some.inj h
      exact hc
    | cons p items ih =>
      intro c d hc hitems h
      rw [List.foldlM_cons] at h
      obtain ⟨e, he, h⟩ := Option.bind_eq_some_iff.1 h
      exact ih e d (hc.add (hitems p List.mem_cons_self) he)
        (fun q hq => hitems q (List.mem_cons_of_mem p hq)) h
  unfold collect at h
  split at h
  · next c hc =>
    have hproper : c.IsProper := hfold items {} c
      ⟨trivial, trivial, trivial, trivial, trivial, trivial, trivial⟩ hitems hc
    split at h
    · cases h
    · obtain rfl := Option.some.inj h
      exact ⟨rfl, hproper.posonly, hproper.args, hproper.vararg, hproper.kwonly,
        hproper.kwDefaults, hproper.kwarg, hproper.defaults, trivial⟩
  · cases h

end Parameter

/-! ## Expressions -/

namespace Grammar

/-- **A layer of grammar that reads what it should.** -/
structure IsProper (g : Grammar) : Prop where
  expression : Reads (Is .expression) g.expression
  factor : Reads (Is .expression) g.factor
  inversion : Reads (Is .expression) g.inversion
  primary : Reads (Is .expression) g.primary
  statement : Reads (AllAre .statement) g.statement

variable {g : Grammar} (hg : g.IsProper)

theorem reads_literals : Reads (Is .expression) literals := by
  unfold literals
  refine reads_bind fun texts => ?_
  split
  · refine reads_bind fun parts => reads_bind fun t => ?_
    split
    · exact reads_stop
    · exact reads_pure ⟨rfl, trivial⟩
  · refine reads_bind fun t => ?_
    split
    · exact reads_stop
    · exact reads_pure ⟨rfl, trivial⟩

include hg

theorem reads_named : Reads (Is .expression) (named g) := by
  unfold named
  refine reads_choose (reads_bind fun name => reads_bind fun _ => ?_) hg.expression
  exact hg.expression.bind fun e he => reads_pure ⟨rfl, ⟨⟨rfl, trivial⟩, trivial⟩, ⟨he, trivial⟩, trivial⟩

theorem reads_operation (level : Nat) : Reads (Is .expression) (operation g level) := by
  induction level with
  | zero => exact hg.factor
  | succ level ih =>
    refine ih.bind fun left hleft => Reads.extend hleft fun n hn => reads_bind fun op => ?_
    split
    · exact ih.bind fun e he => readsAny_some ⟨rfl, ⟨hn, trivial⟩, ⟨he, trivial⟩, trivial⟩
    · exact readsAny_none

theorem reads_operand : Reads (Is .expression) (operand g) := reads_operation hg 6

theorem reads_starExpression : Reads (Is .expression) (starExpression g) := by
  unfold starExpression
  refine reads_choose ((reads_operand hg).bind fun e he => ?_) hg.expression
  exact reads_pure ⟨rfl, ⟨he, trivial⟩, trivial⟩

theorem reads_parameter (annotated : Bool) : Reads Parameter.IsProper (parameter g annotated) := by
  have hbare : ∀ name, (Node.arg name []).Is .parameter := fun name => ⟨rfl, trivial, trivial⟩
  have hone : Reads (Is .parameter) (do
      let name ← identifier
      if annotated then
        if ← accept ":" then return .arg name [← g.expression]
      return .arg name []) := by
    refine reads_bind fun name => ?_
    split
    · refine reads_choose (hg.expression.bind fun hint hhint => ?_) (reads_pure (hbare name))
      exact reads_pure ⟨rfl, ⟨hhint, trivial⟩, trivial⟩
    · exact reads_pure (hbare name)
  unfold parameter
  refine reads_choose (reads_pure trivial) ?_
  refine reads_choose (hone.bind fun n hn => reads_pure hn) ?_
  refine reads_choose ?_ (hone.bind fun n hn => ?_)
  · refine reads_choose (reads_pure fun n hn => by cases hn) (reads_bind fun name => ?_)
    have hstar : Reads Parameter.IsProper (pure (.star (some (.arg name [])))) :=
      reads_pure fun n hn => Option.some.inj hn ▸ hbare name
    split
    · refine reads_choose ((reads_starExpression hg).bind fun hint hhint => ?_) hstar
      exact reads_pure fun n hn => Option.some.inj hn ▸ ⟨rfl, ⟨hhint, trivial⟩, trivial⟩
    · exact hstar
  · refine reads_choose (hg.expression.bind fun d hd => ?_) (reads_pure ⟨hn, fun d hd => by cases hd⟩)
    exact reads_pure ⟨hn, fun e he => Option.some.inj he ▸ hd⟩

theorem reads_parameters (annotated : Bool) (closing : String) :
    Reads (Is .parameters) (parameters g annotated closing) := by
  unfold parameters
  refine reads_choose (reads_pure ?_) ?_
  · exact ⟨rfl, trivial, trivial, trivial, trivial, trivial, trivial, trivial, trivial⟩
  · refine (reads_parameter hg annotated).bind fun first hfirst =>
      (reads_parameter hg annotated).afterCommas.bind ?_
    rintro ⟨rest, trailing⟩ hrest
    dsimp only
    split
    · next n hn =>
      exact reads_pure (Parameter.collect_is (List.forall_mem_cons.2 ⟨hfirst, hrest⟩) hn)
    · exact reads_stop

theorem reads_comparisonChain : Reads (Is .expression) (comparisonChain g) := by
  unfold comparisonChain
  refine (reads_operand hg).bind fun left hleft => ?_
  refine (Reads.many (P := fun r : CompareOp × Node => r.2.Is .expression) ?_).bind
    fun rest hrest => ?_
  · refine reads_bind fun op => ?_
    split
    · exact (reads_operand hg).bind fun e he => readsAny_some he
    · exact readsAny_none
  · split
    · exact reads_pure hleft
    · refine reads_pure ⟨rfl, ⟨hleft, trivial⟩, allAre_iff.2 fun n hn => ?_, trivial⟩
      obtain ⟨r, hr, rfl⟩ := List.mem_map.1 hn
      exact hrest r hr

theorem reads_inversionRule : Reads (Is .expression) (inversionRule g) := by
  unfold inversionRule
  refine reads_choose (hg.inversion.bind fun e he => ?_) (reads_comparisonChain hg)
  exact reads_pure ⟨rfl, ⟨he, trivial⟩, trivial⟩

omit hg in
theorem reads_junction {word : String} {op : BoolOp} {part : Reader Node}
    (h : Reads (Is .expression) part) : Reads (Is .expression) (junction word op part) := by
  unfold junction
  refine h.bind fun first hfirst => ?_
  refine (Reads.many (reads_choose h.some readsAny_none)).bind fun rest hrest => ?_
  split
  · exact reads_pure hfirst
  · exact reads_pure ⟨rfl, ⟨hfirst, allAre_iff.2 hrest⟩, trivial⟩

theorem reads_disjunction : Reads (Is .expression) (disjunction g) :=
  reads_junction (reads_junction (reads_inversionRule hg))

theorem reads_expressionRule : Reads (Is .expression) (expressionRule g) := by
  unfold expressionRule
  refine reads_choose ?_ ((reads_disjunction hg).bind fun first hfirst => ?_)
  · refine (reads_parameters hg false ":").bind fun ps hps => reads_bind fun _ => ?_
    exact hg.expression.bind fun e he => reads_pure ⟨rfl, ⟨hps, trivial⟩, ⟨he, trivial⟩, trivial⟩
  · refine reads_choose ((reads_disjunction hg).bind fun test htest => ?_) (reads_pure hfirst)
    refine reads_bind fun _ => hg.expression.bind fun e he => ?_
    exact reads_pure ⟨rfl, ⟨htest, trivial⟩, ⟨hfirst, trivial⟩, ⟨he, trivial⟩, trivial⟩

theorem reads_element : Reads (Is .expression) (element g) := by
  unfold element
  refine reads_choose ((reads_operand hg).bind fun e he => ?_) (reads_named hg)
  exact reads_pure ⟨rfl, ⟨he, trivial⟩, trivial⟩

omit hg in
/-- Items after the first one make a tuple. -/
theorem reads_tuple {ends : Reader Bool} {item : Reader Node} {first : Node}
    (hfirst : first.Is .expression) (h : Reads (Is .expression) item) :
    Reads (Is .expression) (do
      let (rest, _) ← afterCommas ends item
      return .tuple (first :: rest) .load) := by
  refine h.afterCommas.bind ?_
  rintro ⟨rest, trailing⟩ hrest
  exact reads_pure ⟨rfl, ⟨hfirst, allAre_iff.2 hrest⟩, trivial⟩

theorem reads_starExpressions : Reads (Is .expression) (starExpressions g) := by
  unfold starExpressions
  refine (reads_starExpression hg).bind fun first hfirst => ?_
  exact reads_choose (reads_tuple hfirst (reads_starExpression hg)) (reads_pure hfirst)

theorem reads_yieldExpression : Reads (Is .expression) (yieldExpression g) := by
  unfold yieldExpression
  refine reads_bind fun _ => reads_choose (hg.expression.bind fun e he => ?_) ?_
  · exact reads_pure ⟨rfl, ⟨he, trivial⟩, trivial⟩
  · refine reads_choose (reads_pure ⟨rfl, trivial, trivial⟩) ?_
    exact (reads_starExpressions hg).bind fun e he => reads_pure ⟨rfl, ⟨he, trivial⟩, trivial⟩

theorem reads_yieldOrExpressions : Reads (Is .expression) (yieldOrExpressions g) :=
  reads_choose (reads_yieldExpression hg) (reads_starExpressions hg)

/-! ## Atoms -/

theorem reads_target : Reads (Is .expression) (target g) := by
  unfold target
  refine reads_choose (hg.primary.bind fun e he => ?_) hg.primary
  exact reads_pure ⟨rfl, ⟨he, trivial⟩, trivial⟩

theorem reads_targets : Reads (Is .expression) (targets g) := by
  unfold targets
  refine (reads_target hg).bind fun first hfirst => reads_choose ?_ ?_
  · refine (reads_target hg).afterCommas.bind ?_
    rintro ⟨rest, trailing⟩ hrest
    exact reads_requireTarget ⟨rfl, ⟨hfirst, allAre_iff.2 hrest⟩, trivial⟩
  · exact reads_requireTarget hfirst

theorem reads_loops : Reads (AllAre .loop) (loops g) := by
  have hloops : ReadsAll (Is .loop) (loops g) := by
    refine Reads.many (reads_choose ?_ readsAny_none)
    refine reads_bind fun isAsync => reads_bind fun _ => ?_
    refine (reads_targets hg).bind fun t ht => reads_bind fun _ => ?_
    refine (reads_disjunction hg).bind fun iter hiter => ?_
    refine (Reads.many (reads_choose (reads_disjunction hg).some readsAny_none)).bind
      fun ifs hifs => ?_
    exact readsAny_some ⟨rfl, ⟨ht, trivial⟩, ⟨hiter, trivial⟩, allAre_iff.2 hifs, trivial⟩
  exact fun ts ns rest h => allAre_iff.2 (hloops ts ns rest h)

theorem reads_argument : Reads Argument.IsProper (argument g) := by
  unfold argument
  refine reads_choose (hg.expression.bind fun e he => reads_pure he) ?_
  refine reads_choose (hg.expression.bind fun e he => reads_pure he) ?_
  refine reads_bind fun t => reads_bind fun u => ?_
  split
  · split
    · exact reads_stop
    · exact reads_bind fun _ => reads_bind fun _ => hg.expression.bind fun e he => reads_pure he
  · refine (reads_named hg).bind fun value hvalue => reads_choose ?_ (reads_pure hvalue)
    exact (reads_loops hg).bind fun ls hls => reads_pure ⟨rfl, ⟨hvalue, trivial⟩, hls, trivial⟩

theorem reads_arguments (takesGenerator : Bool) :
    Reads (fun r => AllAre .expression r.1 ∧ AllAre .keyword r.2) (arguments g takesGenerator) := by
  unfold arguments
  refine reads_choose (reads_pure ⟨trivial, trivial⟩) ?_
  refine (reads_argument hg).bind fun first hfirst => (reads_argument hg).afterCommas.bind ?_
  rintro ⟨rest, trailing⟩ hrest
  have hitems : ∀ a ∈ first :: rest, a.IsProper := List.forall_mem_cons.2 ⟨hfirst, hrest⟩
  have hread : Reads (fun r => AllAre .expression r.1 ∧ AllAre .keyword r.2) (do
      expect ")"
      return (Argument.positionals (first :: rest), Argument.keywords (first :: rest))) :=
    reads_bind fun _ => reads_pure ⟨Argument.positionals_are hitems, Argument.keywords_are hitems⟩
  dsimp only
  split
  · split
    · exact reads_stop
    · exact hread
  · split
    · exact reads_stop
    · exact hread

theorem reads_index : Reads (Is .expression) (index g) := by
  have hbound : Reads (AllAre .expression) (do
      if ← seesAny [":", ",", "]"] then return [] else return [← g.expression]) :=
    reads_choose (reads_pure trivial) (hg.expression.bind fun e he => reads_pure ⟨he, trivial⟩)
  unfold index
  refine reads_choose ((reads_operand hg).bind fun e he => ?_) ?_
  · exact reads_pure ⟨rfl, ⟨he, trivial⟩, trivial⟩
  · refine reads_bind fun naming => ?_
    have hlower : Reads (AllAre .expression) (do
        if ← sees ":" then pure [] else do pure [← named g]) :=
      reads_choose (reads_pure trivial) ((reads_named hg).bind fun e he => reads_pure ⟨he, trivial⟩)
    have hrest : ∀ (lower : List Node) (unbounded : Reader Node), AllAre .expression lower →
        Reads (Is .expression) unbounded → Reads (Is .expression) (do
          if ← acceptIf (!naming) ":" then
            let upper ← (do
              if ← seesAny [":", ",", "]"] then return [] else return [← g.expression] :
                Reader (List Node))
            if ← accept ":" then
              return .slice lower upper (← (do
                if ← seesAny [":", ",", "]"] then return [] else return [← g.expression] :
                  Reader (List Node)))
            else return .slice lower upper []
          else unbounded) := by
      intro lower unbounded hlower hunbounded
      refine reads_choose (hbound.bind fun upper hupper => reads_choose ?_ ?_) hunbounded
      · exact hbound.bind fun step hstep => reads_pure ⟨rfl, hlower, hupper, hstep, trivial⟩
      · exact reads_pure ⟨rfl, hlower, hupper, trivial, trivial⟩
    refine reads_bind fun b => ?_
    cases b
    · exact (reads_named hg).bind fun e he => hrest [e] (pure e) ⟨he, trivial⟩ (reads_pure he)
    · exact hrest [] stop trivial reads_stop

theorem reads_indexes : Reads (Is .expression) (indexes g) := by
  unfold indexes
  refine (reads_index hg).bind fun first hfirst => ?_
  refine reads_choose (reads_tuple hfirst (reads_index hg)) ?_
  split
  · exact reads_pure ⟨rfl, ⟨hfirst, trivial⟩, trivial⟩
  · exact reads_pure hfirst

theorem reads_bracketed : Reads (Is .expression) (bracketed g) := by
  unfold bracketed
  refine reads_choose (reads_pure ⟨rfl, trivial, trivial⟩) (reads_choose ?_ ?_)
  · exact (reads_yieldExpression hg).bind fun e he => reads_bind fun _ => reads_pure he
  · refine (reads_element hg).bind fun first hfirst => reads_choose ?_ ?_
    · refine (reads_element hg).afterCommas.bind ?_
      rintro ⟨rest, trailing⟩ hrest
      exact reads_bind fun _ => reads_pure ⟨rfl, ⟨hfirst, allAre_iff.2 hrest⟩, trivial⟩
    · split
      · exact reads_stop
      · refine reads_choose ((reads_loops hg).bind fun ls hls => ?_) ?_
        · exact reads_bind fun _ => reads_pure ⟨rfl, ⟨hfirst, trivial⟩, hls, trivial⟩
        · exact reads_bind fun _ => reads_pure hfirst

theorem reads_listDisplay : Reads (Is .expression) (listDisplay g) := by
  unfold listDisplay
  refine reads_choose (reads_pure ⟨rfl, trivial, trivial⟩) ?_
  refine (reads_element hg).bind fun first hfirst => ?_
  refine reads_bind fun b => ?_
  split
  · exact (reads_loops hg).bind fun ls hls => reads_bind fun _ =>
      reads_pure ⟨rfl, ⟨hfirst, trivial⟩, hls, trivial⟩
  · refine (reads_element hg).afterCommas.bind ?_
    rintro ⟨rest, trailing⟩ hrest
    exact reads_bind fun _ => reads_pure ⟨rfl, ⟨hfirst, allAre_iff.2 hrest⟩, trivial⟩

theorem reads_entry :
    Reads (fun r => r.1.Is .expression ∧ r.2.Is .expression) (entry g) := by
  unfold entry
  refine reads_choose ((reads_operand hg).bind fun e he => reads_pure ⟨⟨rfl, trivial⟩, he⟩) ?_
  exact hg.expression.bind fun k hk => reads_bind fun _ => hg.expression.bind fun e he =>
    reads_pure ⟨hk, he⟩

theorem reads_dictionary {first : Node × Node}
    (hfirst : first.1.Is .expression ∧ first.2.Is .expression) :
    Reads (Is .expression) (braceDisplay.dictionary g first) := by
  unfold braceDisplay.dictionary
  refine (reads_entry hg).afterCommas.bind ?_
  rintro ⟨rest, trailing⟩ hrest
  have hentries : ∀ r ∈ first :: rest, r.1.Is .expression ∧ r.2.Is .expression :=
    List.forall_mem_cons.2 ⟨hfirst, hrest⟩
  refine reads_bind fun _ => reads_pure ⟨rfl, allAre_iff.2 ?_, allAre_iff.2 ?_, trivial⟩
  · exact List.forall_mem_map.2 fun r hr => (hentries r hr).1
  · exact List.forall_mem_map.2 fun r hr => (hentries r hr).2

theorem reads_braceDisplay : Reads (Is .expression) (braceDisplay g) := by
  unfold braceDisplay
  refine reads_choose (reads_pure ⟨rfl, trivial, trivial, trivial⟩) ?_
  refine reads_choose ((reads_entry hg).bind fun first hfirst => reads_dictionary hg hfirst) ?_
  refine reads_bind fun naming => (reads_element hg).bind fun first hfirst => ?_
  refine reads_choose (hg.expression.bind fun value hvalue => reads_choose ?_ ?_) ?_
  · exact (reads_loops hg).bind fun ls hls => reads_bind fun _ =>
      reads_pure ⟨rfl, ⟨hfirst, trivial⟩, ⟨hvalue, trivial⟩, hls, trivial⟩
  · exact reads_dictionary hg ⟨hfirst, hvalue⟩
  · refine reads_bind fun b => ?_
    split
    · exact (reads_loops hg).bind fun ls hls => reads_bind fun _ =>
        reads_pure ⟨rfl, ⟨hfirst, trivial⟩, hls, trivial⟩
    · refine (reads_element hg).afterCommas.bind ?_
      rintro ⟨rest, trailing⟩ hrest
      exact reads_bind fun _ => reads_pure ⟨rfl, ⟨hfirst, allAre_iff.2 hrest⟩, trivial⟩

theorem reads_atom : Reads (Is .expression) (atom g) := by
  unfold atom
  refine reads_bind fun t => ?_
  split
  · exact reads_bind fun _ => reads_pure ⟨rfl, trivial⟩
  · exact reads_literals
  · exact reads_literals
  · split
    · exact reads_bind fun _ => reads_pure ⟨rfl, trivial⟩
    split
    · exact reads_bind fun _ => reads_pure ⟨rfl, trivial⟩
    split
    · exact reads_bind fun _ => reads_pure ⟨rfl, trivial⟩
    · exact reads_bind fun name => reads_pure ⟨rfl, trivial⟩
  · split
    · exact reads_bind fun _ => reads_bracketed hg
    split
    · exact reads_bind fun _ => reads_listDisplay hg
    split
    · exact reads_bind fun _ => reads_braceDisplay hg
    split
    · exact reads_bind fun _ => reads_pure ⟨rfl, trivial⟩
    · exact reads_stop
  · exact reads_stop

theorem reads_primaryRule : Reads (Is .expression) (primaryRule g) := by
  unfold primaryRule
  refine (reads_atom hg).bind fun first hfirst => Reads.extend hfirst fun n hn => ?_
  refine reads_choose (reads_bind fun name => readsAny_some ⟨rfl, ⟨hn, trivial⟩, trivial⟩) ?_
  refine reads_choose ((reads_arguments hg true).bind ?_) (reads_choose ?_ readsAny_none)
  · rintro ⟨args, keywords⟩ ⟨hargs, hkeywords⟩
    exact readsAny_some ⟨rfl, ⟨hn, trivial⟩, hargs, hkeywords, trivial⟩
  · exact (reads_indexes hg).bind fun i hi => reads_bind fun _ =>
      readsAny_some ⟨rfl, ⟨hn, trivial⟩, ⟨hi, trivial⟩, trivial⟩

theorem reads_power : Reads (Is .expression) (power g) := by
  unfold power
  refine reads_bind fun awaits => (reads_primaryRule hg).bind fun base hbase => ?_
  have hoperand : (if awaits then .await base else base : Node).Is .expression := by
    cases awaits
    · exact hbase
    · exact ⟨rfl, ⟨hbase, trivial⟩, trivial⟩
  refine reads_choose (hg.factor.bind fun e he => ?_) (reads_pure hoperand)
  exact reads_pure ⟨rfl, ⟨hoperand, trivial⟩, ⟨he, trivial⟩, trivial⟩

theorem reads_factorRule : Reads (Is .expression) (factorRule g) := by
  unfold factorRule
  refine reads_bind fun op => ?_
  split
  · exact hg.factor.bind fun e he => reads_pure ⟨rfl, ⟨he, trivial⟩, trivial⟩
  · exact reads_power hg

end Grammar

end Narrowing.Code
