import Timex.Proofs.Yaml.Layout
import Timex.Yaml.Node

/-!
# Documents that break off

The grammar looks at every word before it passes it, and stops at a failure. So what is left
of tokens that end with a failure still ends with it, whatever has been read, and no document
comes of them.
-/

namespace Timex.Yaml
namespace Node

open Layout (Broken)

-- ---------------------------------------------------------------------------
-- What a reader leaves
-- ---------------------------------------------------------------------------

theorem broken_of_drop {n : Nat} {ts : List Token} : Broken (ts.drop n) → Broken ts
  | ⟨front, why, h⟩ => ⟨ts.take n ++ front, why, by rw [List.append_assoc, ← h, List.take_append_drop]⟩

/-- With `n` words in front of a failure at the end, the tokens that are left have a
property. -/
def Leads (n : Nat) (post : List Token → Prop) (m : Reader α) : Prop :=
  ∀ p, Broken (p.tokens.drop n) → Ensures (fun r => post r.2.tokens) (m p)

/-- The failure is not passed. -/
abbrev Keeps (n : Nat) (m : Reader α) : Prop := Leads n Broken m

namespace Leads

variable {n : Nat} {post : List Token → Prop} {m : Reader α}

theorem throw (e : Error) : Leads n post (throw e : Reader α) := fun _ _ => .error e

theorem malformed (why : String) : Leads n post (malformed why : Reader α) := throw _

theorem pure (a : α) : Keeps n (pure a : Reader α) := fun _ h => .ok (broken_of_drop h)

theorem bind {f : α → Reader β} (hm : Keeps n m) (hf : ∀ a, Leads 0 post (f a)) :
    Leads n post (m >>= f) :=
  fun p h => (hm p h).bind fun r hr => hf r.1 r.2 hr

theorem mono (hm : Leads 0 post m) : Leads n post m := fun p h => hm p (broken_of_drop h)

theorem map {f : α → β} (hm : Keeps n m) : Keeps n (f <$> m) := by
  rw [map_eq_pure_bind]
  exact hm.bind fun _ => pure _

theorem ite {c : Prop} [Decidable c] {m k : Reader α} (hm : c → Leads n post m)
    (hk : ¬c → Leads n post k) : Leads n post (if c then m else k) := by
  split
  · exact hm ‹_›
  · exact hk ‹_›

/-- What comes after a check is done where the check has passed. -/
theorem check {c : Prop} [Decidable c] {why : String} {f : Unit → Reader α}
    (hf : Leads n post (f ())) : Leads n post (if c then Node.malformed why >>= f else f ()) :=
  ite (fun _ => throw _) fun _ => hf

theorem get_bind {f : Progress → Reader α} (hf : ∀ p, Leads n post (f p)) :
    Leads n post (get >>= f) := fun p h => hf p p h

/-- A word that can be seen stands in front of the failure. -/
theorem ensures_peek {p : Progress} (h : Broken p.tokens) :
    Ensures (fun r => ∃ t, r = (some t, p) ∧ Broken (p.tokens.drop 1)) (peek p) := by
  obtain ⟨front, why, h⟩ := h
  obtain ⟨ts, nodes, anchors, handles, depth⟩ := p
  subst h
  cases front with
  | nil => exact .error why
  | cons t front =>
    cases t with
    | failure e => exact .error e
    | _ => exact .ok ⟨_, rfl, front, why, rfl⟩

theorem peek_bind {f : Option Token → Reader α} (hf : ∀ t, Leads 1 post (f (some t))) :
    Leads 0 post (peek >>= f) := by
  intro p h
  refine (ensures_peek h).bind ?_
  rintro _ ⟨t, rfl, ht⟩
  exact hf t p ht

theorem skip : Keeps 1 Node.skip := fun p h => .ok (by simpa using h)

theorem accept (t : Token) : Keeps 0 (accept t) := by
  unfold Node.accept
  refine peek_bind fun u => ?_
  split
  · exact skip.bind fun _ => pure _
  · exact pure _

/-- The state may change in all but the tokens. -/
theorem modify {f : Progress → Progress} (hf : ∀ p, (f p).tokens = p.tokens) :
    Keeps n (modify f : Reader Unit) := fun p h => .ok (by simpa [hf] using broken_of_drop h)

theorem add (v : Node) : Keeps n (add v) := fun _ h => .ok (broken_of_drop h)

theorem define (id : NodeId) (v : Node) : Keeps n (define id v) := modify fun _ => rfl

theorem leave : Keeps n leave := modify fun _ => rfl

theorem enter : Keeps n enter :=
  get_bind fun _ => ite (fun _ => throw _) fun _ => modify fun _ => rfl

end Leads

-- ---------------------------------------------------------------------------
-- Properties of a node
-- ---------------------------------------------------------------------------

theorem keeps_aliased (name : Text) : Keeps 0 (aliased name) := by
  refine .get_bind fun p => ?_
  split
  · exact .pure _
  · exact .malformed _

theorem keeps_setAnchor (name : Text) (id : NodeId) : Keeps 0 (setAnchor name id) := by
  refine .get_bind fun p => .ite (fun _ => ?_) fun _ => .modify fun _ => rfl
  exact (Leads.malformed _).bind fun _ => .modify fun _ => rfl

theorem keeps_anchor? : Keeps 0 anchor? := by
  refine .peek_bind fun t => ?_
  split
  · exact Leads.skip.bind fun _ => .pure _
  · exact .pure _

theorem keeps_expanded (t : WrittenTag) : Keeps 0 (expanded t) := by
  unfold expanded
  split
  · exact .pure _
  · refine .get_bind fun p => ?_
    split
    · exact .pure _
    · exact .malformed _

theorem keeps_tag? : Keeps 0 tag? := by
  refine .peek_bind fun t => ?_
  split
  · exact Leads.skip.bind fun _ => (keeps_expanded _).bind fun _ => .pure _
  · exact .pure _

theorem keeps_properties : Keeps 0 properties := by
  refine keeps_anchor?.bind fun name => ?_
  split
  · exact keeps_tag?.bind fun _ => .pure _
  · refine keeps_tag?.bind fun t => .ite (fun _ => ?_) fun _ => .pure _
    exact keeps_anchor?.bind fun _ => .pure _

-- ---------------------------------------------------------------------------
-- The grammar
-- ---------------------------------------------------------------------------

/-- Reading with so much fuel keeps a failure at the end. -/
structure GrammarKeeps (fuel : Nat) : Prop where
  node : ∀ place, Keeps 0 (node place fuel)
  nodeBefore : ∀ ends place, Keeps 0 (nodeBefore ends place fuel)
  valueBefore : ∀ ends place, Keeps 0 (valueBefore ends place fuel)
  blockItems : Keeps 0 (blockItems fuel)
  levelItems : Keeps 0 (levelItems fuel)
  blockEntries : Keeps 0 (blockEntries fuel)
  flowItems : ∀ first, Keeps 0 (flowItems first fuel)
  flowEntries : ∀ first, Keeps 0 (flowEntries first fuel)

theorem grammarKeeps_zero : GrammarKeeps 0 := by
  constructor
  all_goals
    intros
    simp only [node, nodeBefore, valueBefore, blockItems, levelItems, blockEntries, flowItems,
      flowEntries]
    exact .malformed _

variable {fuel : Nat}

theorem keeps_node (ih : GrammarKeeps fuel) (place : Place) : Keeps 0 (node place (fuel + 1)) := by
  unfold node
  refine .peek_bind fun t => ?_
  split
  · exact Leads.skip.bind fun _ => keeps_aliased _
  refine Leads.enter.bind fun _ => keeps_properties.bind fun (anchor, written) =>
    (Leads.add _).bind fun id => ?_
  extract_lets sequence mapping last rest
  have keeps_last (v : Node) : Keeps 0 (last v) :=
    (Leads.define id v).bind fun _ => Leads.leave.bind fun _ => .pure _
  have keeps_rest : Keeps 0 (rest ()) := by
    refine .peek_bind fun t => ?_
    split
    · exact Leads.skip.bind fun _ => keeps_last _
    · exact Leads.skip.bind fun _ => (ih.flowItems _).map.bind keeps_last
    · exact Leads.skip.bind fun _ => (ih.flowEntries _).map.bind keeps_last
    · exact Leads.skip.bind fun _ => ih.blockItems.map.bind keeps_last
    · exact Leads.skip.bind fun _ => ih.blockItems.map.bind keeps_last
    · exact Leads.skip.bind fun _ => ih.blockEntries.map.bind keeps_last
    · exact Leads.skip.bind fun _ => ih.blockEntries.map.bind keeps_last
    · exact (ih.levelItems.map.bind keeps_last).mono
    · exact .ite (fun _ => (keeps_last _).mono) fun _ => (Leads.malformed _).bind keeps_last
  split
  · exact (keeps_setAnchor _ _).bind fun _ => keeps_rest
  · exact keeps_rest

theorem keeps_nodeBefore (ih : GrammarKeeps fuel) (ends : List Token) (place : Place) :
    Keeps 0 (nodeBefore ends place (fuel + 1)) := by
  unfold nodeBefore
  exact .peek_bind fun t => .ite (fun _ => .add _) fun _ => (ih.node _).mono

theorem keeps_valueBefore (ih : GrammarKeeps fuel) (ends : List Token) (place : Place) :
    Keeps 0 (valueBefore ends place (fuel + 1)) := by
  unfold valueBefore
  exact (Leads.accept _).bind fun _ => .ite (fun _ => ih.nodeBefore _ _) fun _ => .add _

theorem keeps_blockItems (ih : GrammarKeeps fuel) : Keeps 0 (blockItems (fuel + 1)) := by
  unfold blockItems
  refine (Leads.accept _).bind fun _ => .ite (fun _ => ?_) fun _ => ?_
  · exact (ih.nodeBefore _ _).bind fun _ => ih.blockItems.bind fun _ => .pure _
  · exact (Leads.accept _).bind fun _ => .ite (fun _ => .pure _) fun _ => .malformed _

theorem keeps_levelItems (ih : GrammarKeeps fuel) : Keeps 0 (levelItems (fuel + 1)) := by
  unfold levelItems
  refine (Leads.accept _).bind fun _ => .ite (fun _ => ?_) fun _ => .pure _
  exact (ih.nodeBefore _ _).bind fun _ => ih.levelItems.bind fun _ => .pure _

theorem keeps_blockEntries (ih : GrammarKeeps fuel) : Keeps 0 (blockEntries (fuel + 1)) := by
  unfold blockEntries
  refine (Leads.accept _).bind fun _ => .ite (fun _ => ?_) fun _ => ?_
  · exact (ih.nodeBefore _ _).bind fun _ => (ih.valueBefore _ _).bind fun _ =>
      ih.blockEntries.bind fun _ => .pure _
  · exact (Leads.accept _).bind fun _ => .ite (fun _ => .pure _) fun _ => .malformed _

/-- Between the entries of a flow collection there is a comma. -/
theorem Leads.comma {first : Bool} {why : String} {m : Unit → Reader α} (hm : Keeps 0 (m ())) :
    Keeps 0 (if (!first) = true then do
        let found ← Node.accept .flowEntry
        if (!found) = true then do
          let r ← Node.malformed why
          m r
        else m ()
      else m ()) := by
  refine .ite (fun _ => (Leads.accept _).bind fun _ => .ite (fun _ => ?_) fun _ => hm) fun _ => hm
  exact (Leads.malformed _).bind fun _ => hm

theorem keeps_flowItems (ih : GrammarKeeps fuel) (first : Bool) :
    Keeps 0 (flowItems first (fuel + 1)) := by
  unfold flowItems
  refine (Leads.accept _).bind fun _ => .ite (fun _ => .pure _) fun _ => .comma ?_
  refine (Leads.accept _).bind fun _ => .ite (fun _ => ?_) fun _ => ?_
  · exact (ih.nodeBefore _ _).bind fun _ => (ih.valueBefore _ _).bind fun _ =>
      (Leads.add _).bind fun _ => (ih.flowItems _).bind fun _ => .pure _
  · refine (Leads.accept _).bind fun _ => .ite (fun _ => .pure _) fun _ => ?_
    exact (ih.node _).bind fun _ => (ih.flowItems _).bind fun _ => .pure _

theorem keeps_flowEntries (ih : GrammarKeeps fuel) (first : Bool) :
    Keeps 0 (flowEntries first (fuel + 1)) := by
  unfold flowEntries
  refine (Leads.accept _).bind fun _ => .ite (fun _ => .pure _) fun _ => .comma ?_
  refine (Leads.accept _).bind fun _ => .ite (fun _ => ?_) fun _ => ?_
  · exact (ih.nodeBefore _ _).bind fun _ => (ih.valueBefore _ _).bind fun _ =>
      (ih.flowEntries _).bind fun _ => .pure _
  · refine (Leads.accept _).bind fun _ => .ite (fun _ => .pure _) fun _ => ?_
    exact (ih.node _).bind fun _ => (Leads.add _).bind fun _ =>
      (ih.flowEntries _).bind fun _ => .pure _

theorem grammarKeeps : ∀ fuel, GrammarKeeps fuel
  | 0 => grammarKeeps_zero
  | fuel + 1 =>
    have ih := grammarKeeps fuel
    { node := keeps_node ih
      nodeBefore := keeps_nodeBefore ih
      valueBefore := keeps_valueBefore ih
      blockItems := keeps_blockItems ih
      levelItems := keeps_levelItems ih
      blockEntries := keeps_blockEntries ih
      flowItems := keeps_flowItems ih
      flowEntries := keeps_flowEntries ih }

-- ---------------------------------------------------------------------------
-- Documents
-- ---------------------------------------------------------------------------

theorem keeps_directives (version : Bool) (declared : List (Text × Text)) (fuel : Nat) :
    Keeps 0 (directives version declared fuel) := by
  induction fuel generalizing version declared with
  | zero => exact .malformed _
  | succ fuel ih =>
    unfold directives
    refine .peek_bind fun t => ?_
    split
    · refine Leads.skip.bind fun _ => ?_
      split
      · exact .check <| .check <| ih _ _
      · exact .check <| ih _ _
      · exact ih _ _
    · exact .modify fun _ => rfl

theorem keeps_skipDocumentEnds (fuel : Nat) : Keeps 0 (skipDocumentEnds fuel) := by
  induction fuel with
  | zero => exact .pure _
  | succ fuel ih =>
    unfold skipDocumentEnds
    exact (Leads.accept _).bind fun _ => .ite (fun _ => ih) fun _ => .pure _

/-- After the last node the reader looks for more, so that a failure is found there at the
latest. -/
theorem leads_document : Leads 0 (fun _ => False) document := by
  refine .get_bind fun p => .peek_bind fun first => ?_
  extract_lets rest body
  have leads_rest (root : NodeId) : Leads 0 (fun _ => False) (rest root) := by
    refine (keeps_skipDocumentEnds _).bind fun _ => .peek_bind fun t => ?_
    exact ((keeps_directives _ _ _).bind fun _ => .malformed _).mono
  have keeps_block (fuel : Nat) : Keeps 0 (node .block fuel) := (grammarKeeps fuel).node _
  refine Leads.mono ?_
  refine .ite (fun _ => ?_) fun _ => (keeps_block _).bind leads_rest
  refine (keeps_directives _ _ _).bind fun _ => (Leads.accept _).bind fun _ => .check ?_
  refine .peek_bind fun t => Leads.mono ?_
  exact .ite (fun _ => (Leads.add _).bind leads_rest) fun _ => (keeps_block _).bind leads_rest

end Node

/-- Tokens that end with a failure are refused. -/
theorem Graph.exists_ofTokens_eq_error {ts : List Token} (h : Layout.Broken ts) :
    ∃ e, Graph.ofTokens ts = .error e := by
  have hd : Ensures (fun _ => False) (Graph.ofTokens ts) :=
    (Node.leads_document ⟨ts, #[], [], Node.defaultHandles, 0⟩ h).bind fun _ h => h.elim
  cases hr : Graph.ofTokens ts with
  | error e => exact ⟨e, rfl⟩
  | ok g => exact (hd g hr).elim

end Timex.Yaml
