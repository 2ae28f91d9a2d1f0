import MiniTemplate.Proofs.LoadingStep
/-!
# Complaints point at the first fault

A complaint about a document names a position, and a part of the node that stands there. The node at
this position is what is malformed: loaded alone, it gives the same complaint about the same part. And it
is the first: whatever is loaded before it, on the way from the root, is sound.

The induction follows the loading of one node (`Load.Stops`). What comes before a position below a child
or a block is what comes before this step, and what comes before the position from there on
(`SoundBefore.cons`).
-/

namespace MiniTemplate

namespace Load

/-- All children and blocks that are loaded before those on the way to a position are sound. -/
def SoundBefore (depth : Nat) (data : Value) (place : Place) : Prop :=
  ∀ parent s rest owner, place = parent ++ s :: rest → data.at? parent = some owner →
    ∀ earlier w, Step.Before earlier s → owner.follow? earlier = some w → LoadsAlone depth w

namespace SoundBefore

variable {depth limit : Nat} {data : Value} {place : Place} {s : Step}

theorem nil (depth : Nat) (data : Value) : SoundBefore depth data [] :=
  fun parent s rest _ hplace => absurd hplace.symm (List.append_ne_nil_of_right_ne_nil parent
    (List.cons_ne_nil s rest))

theorem cons
    (hearlier : ∀ earlier w, Step.Before earlier s → data.follow? earlier = some w →
      LoadsAlone depth w)
    (hbelow : ∀ w, data.step? s = some w → SoundBefore depth w place) :
    SoundBefore depth data (s :: place) := by
  intro parent s' rest owner hplace hat
  cases parent with
  | nil =>
      cases hat
      rw [← (List.cons.inj hplace).1]
      exact hearlier
  | cons first parent =>
      obtain ⟨hfirst, hrest⟩ := List.cons.inj hplace
      obtain ⟨w, hstep, hat⟩ := Option.bind_eq_some_iff.mp hat
      exact hbelow w (hfirst ▸ hstep) parent s' rest owner hrest hat

theorem mono (hlimit : depth ≤ limit) (hsound : SoundBefore depth data place) :
    SoundBefore limit data place :=
  fun parent s rest owner hplace hat earlier w hbefore hfollow =>
    (hsound parent s rest owner hplace hat earlier w hbefore hfollow).mono hlimit

end SoundBefore

/-- A complaint about a node or a part of it is the first fault of the data: it is about the node at a
position, and everything before the position is sound. If it is about an entry of the chain, so is
everything before the block of this entry. -/
structure FirstFault (depth : Nat) (data : Value) (cause : Malformed) (place : Place)
    (part : NodePart) : Prop where
  at_place : ∃ s log, data.at? place = some s
    ∧ tree depth s [] = .error (.malformed cause (.tree [] part)) log
  before : SoundBefore depth data place
  before_entry : ∀ k, part = .condition k → SoundBefore depth data (place ++ [.block k])

theorem FirstFault.cons {depth : Nat} {data w : Value} {cause : Malformed} {place : Place}
    {part : NodePart} {s : Step} (hfollow : data.follow? s = some w)
    (hearlier : ∀ earlier w', Step.Before earlier s → data.follow? earlier = some w' →
      LoadsAlone depth w')
    (hfault : FirstFault depth w cause place part) :
    FirstFault (depth + 1) data cause (s :: place) part := by
  have hstep := (Value.follow?_eq_some_iff.mp hfollow).1
  have hlimit := Nat.le_succ depth
  have hbelow : ∀ rest, SoundBefore depth w rest → SoundBefore (depth + 1) data (s :: rest) := by
    intro rest hsound
    refine .cons (fun earlier w' hbefore hw' => (hearlier earlier w' hbefore hw').mono hlimit) ?_
    intro w' hstep'
    cases hstep.symm.trans hstep'
    exact hsound.mono hlimit
  obtain ⟨found, log, hat, hrun⟩ := hfault.at_place
  obtain ⟨rest, own, halone, hlocation⟩ := tree_of_node_malformed hlimit hrun
  rw [Location.under_nil] at hlocation
  refine ⟨⟨found, own, ?_, hlocation ▸ halone⟩, hbelow place hfault.before, ?_⟩
  · rw [Value.at?, hstep]
    exact hat
  · exact fun k hpart => hbelow _ (hfault.before_entry k hpart)

theorem exists_firstFault {depth : Nat} {data : Value} {cause : Malformed} {location : Location}
    {last : Log} (hrun : tree depth data [] = .error (.malformed cause location) last) :
    ∃ place part, location = .tree place part ∧ FirstFault depth data cause place part := by
  induction depth generalizing data location last with
  | zero => exact nomatch hrun
  | succ depth ih =>
      cases stops_of_tree hrun with
      | own part hearlier =>
          refine ⟨[], part, rfl, ⟨data, last, rfl, hrun⟩, .nil _ data, ?_⟩
          intro k hpart
          refine .cons (fun earlier w hbefore hfollow => ?_) fun w _ => .nil _ w
          exact (hearlier k hpart earlier w hbefore hfollow).mono (Nat.le_succ depth)
      | below hfollow hbelow hearlier =>
          obtain ⟨place, part, rfl, hfault⟩ := ih hbelow
          exact ⟨_, part, rfl, hfault.cons hfollow hearlier⟩

/-- **A complaint points at the first malformed place.** Its path is `ast`, some steps and a suffix. The
steps lead to a value in the data which, loaded alone, gives the same complaint with the path `ast` and
the same suffix; and everything that is loaded before is sound. -/
theorem complaint_at_first_fault {depth : Nat} {data : Value} {cause : Malformed}
    {location : Location} {log last : Log}
    (hrun : tree depth data log = .error (.malformed cause location) last) :
    ∃ place part, location = .tree place part
      ∧ location.text = "ast" ++ String.join (place.map Step.text) ++ part.text
      ∧ (Location.tree [] part).text = "ast" ++ part.text
      ∧ FirstFault depth data cause place part := by
  obtain ⟨rest, own, halone, hlocation⟩ := tree_of_node_malformed (Nat.le_refl depth) hrun
  rw [Location.under_nil] at hlocation
  obtain ⟨place, part, hrest, hfault⟩ := exists_firstFault halone
  rw [hlocation, hrest]
  exact ⟨place, part, rfl, rfl, rfl, hfault⟩

/-- The second attribute of the last branch of a chain has no name. The chain is led by the third child,
and the first one is left out. -/
def nameless : Value :=
  .object
    [("tag", .str "div"),
      ("children", .list
        [.object [("else", .bool true), ("type", .int 9)], .object [("type", .int 3)],
          .object
            [("tag", .str "p"),
              ("ifConditions", .list
                [.object [], .object [("block", .object [("type", .int 3)])],
                  .object
                    [("block", .object
                      [("tag", .str "i"),
                        ("attrsList", .list [.object [("name", .str "id")], .object []])])]])]])]

theorem complaint_at_first_fault_nameless :
    tree 3 nameless [] = .error
      (.malformed .attributeWithoutName (.tree [.child 2, .block 2] (.attr 1)))
      [.branchSkipped [.child 0]]
    ∧ (Location.tree [.child 2, .block 2] (.attr 1)).text =
      "ast.children[2].ifConditions[2].block.attrsList[1]"
    ∧ FirstFault 3 nameless .attributeWithoutName [.child 2, .block 2] (.attr 1) := by
  have hrun : tree 3 nameless [] = .error
      (.malformed .attributeWithoutName (.tree [.child 2, .block 2] (.attr 1)))
      [.branchSkipped [.child 0]] := by rfl
  obtain ⟨place, part, hlocation, htext, -, hfault⟩ := complaint_at_first_fault hrun
  cases hlocation
  exact ⟨hrun, htext, hfault⟩

end Load

end MiniTemplate
