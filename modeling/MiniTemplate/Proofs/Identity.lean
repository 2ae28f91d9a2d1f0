import Mathlib.Logic.Equiv.Defs
import MiniTemplate.Proofs.Correspondence
/-!
# What identifies a node

A pass knows a node by its identity in one place only, where it looks up whether the chain of the node
was expanded. So a map of nodes that keeps what they say and where they link, and keeps apart the nodes
that lead a chain, carries a whole generation over: the two documents are the same, and the expanded
chains are those of corresponding nodes (`generate_carried`).

Two cases are worth stating. Giving other identities to all nodes changes nothing but the identities.
And nodes that lead no chain may be shared or copied: if links of a graph are led to other copies of
the same nodes, then both graphs are carried to the one in which all copies are shared (`shared`).
-/

namespace MiniTemplate

variable {ι κ : Type}

/-- The outcome for corresponding nodes. -/
def Outcome.carry (f : ι → κ) (outcome : Outcome ι) : Outcome κ where
  document := outcome.document
  failed := outcome.failed
  pass := { expanded := outcome.pass.expanded.map f, log := outcome.pass.log }

namespace Generation

variable {graph : Graph ι} {other : Graph κ} {f : ι → κ} {within : ι → Prop}

theorem generate_together [DecidableEq ι] [DecidableEq κ] (hcorr : Corresponds graph other f within)
    (options : Options) (depth : Nat) (root : ι) (hroot : within root) :
    generate other options depth (f root) = (generate graph options depth root).carry f
      ∧ ∀ i ∈ (generate graph options depth root).pass.expanded, (graph i).chain ≠ [] := by
  have htogether : RunTogether graph f within (document graph options depth root)
      (document other options depth (f root)) :=
    .bind hcorr (visit_together hcorr options depth root none hroot) fun inner =>
      .ofExcept (.ok (Markup.importsOf options ++ envelopeStart options.name ++ inner.text ++ envelopeEnd))
  obtain ⟨result, fresh, events, hfresh, hrun, hrun'⟩ :=
    htogether { log := [.generating options.name] } { log := [.generating options.name] }
      fun i _ _ => iff_of_false List.not_mem_nil List.not_mem_nil
  have hleads : ∀ i ∈ fresh ++ [], (graph i).chain ≠ [] := by
    intro i hi
    rw [List.append_nil] at hi
    have hlead := (hfresh i hi).2.1
    rwa [List.isEmpty_eq_false_iff] at hlead
  cases result with
  | error failure =>
      change document graph options depth root _ = .error failure _ at hrun
      change document other options depth (f root) _ = .error failure _ at hrun'
      simp only [generate, EStateM.run, hrun, hrun']
      exact ⟨by simp [Outcome.carry, Pass.after], hleads⟩
  | ok written =>
      change document graph options depth root _ = .ok written _ at hrun
      change document other options depth (f root) _ = .ok written _ at hrun'
      simp only [generate, EStateM.run, hrun, hrun']
      exact ⟨by simp [Outcome.carry, Pass.after], hleads⟩

end Generation

open Generation

/-- A map of nodes to nodes that say the same and link to the images of what they link to. It keeps
apart the nodes that lead a chain, and may take others together. -/
structure Mirrored (graph : Graph ι) (other : Graph κ) (f : ι → κ) : Prop where
  label : ∀ i, (other (f i)).label = (graph i).label
  children : ∀ i, (other (f i)).children = (graph i).children.map f
  guards : ∀ i, (other (f i)).chain.map (·.guard) = (graph i).chain.map (·.guard)
  blocks : ∀ i, (other (f i)).chain.map (·.block) =
    (graph i).chain.map fun condition => f condition.block
  apart : ∀ i j, (graph i).chain ≠ [] → (graph j).chain ≠ [] → f i = f j → i = j

theorem chainLinks_eq_zip (node : Node ι) :
    chainLinks node = (node.chain.map (·.block)).zip ((node.chain.map (·.guard)).map some) := by
  rw [List.map_map, List.zip_map']
  rfl

section

variable {graph : Graph ι} {other : Graph κ} {f : ι → κ}

theorem Mirrored.corresponds (hmirrored : Mirrored graph other f) :
    Corresponds graph other f fun _ => True where
  label := fun i _ => hmirrored.label i
  children := by
    intro i _
    simp [childLinks, hmirrored.children i, Link.carry]
  chain := by
    intro i _
    rw [chainLinks_eq_zip, hmirrored.guards i, hmirrored.blocks i, List.map_map, List.zip_map']
    simp [chainLinks, Link.carry]
  closed := fun _ _ _ _ => trivial
  injective := by
    intro i j _ _ hi hj heq
    rw [List.isEmpty_eq_false_iff] at hi hj
    exact hmirrored.apart i j hi hj heq

variable [DecidableEq ι] [DecidableEq κ]

theorem generate_carried (hmirrored : Mirrored graph other f) (options : Options) (depth : Nat)
    (root : ι) :
    generate other options depth (f root) = (generate graph options depth root).carry f :=
  (generate_together hmirrored.corresponds options depth root trivial).1

end

/-! ### Other identities -/

/-- The same nodes by other identities. -/
def Graph.renamed (graph : Graph ι) (rename : ι ≃ κ) : Graph κ := fun k =>
  let node := graph (rename.symm k)
  { label := node.label
    children := node.children.map rename
    chain := node.chain.map fun condition => ⟨condition.guard, rename condition.block, condition.test⟩ }

theorem mirrored_renamed (graph : Graph ι) (rename : ι ≃ κ) :
    Mirrored graph (graph.renamed rename) rename where
  label := by
    intro i
    simp [Graph.renamed]
  children := by
    intro i
    simp [Graph.renamed]
  guards := by
    intro i
    simp [Graph.renamed]
  blocks := by
    intro i
    simp [Graph.renamed]
  apart := fun _ _ _ _ heq => rename.injective heq

/-! ### Shared nodes -/

/-- Nodes that are copies: each has an original that says the same and links to copies of the same. A
node that leads a chain is no copy and has none. -/
structure Copies (graph : Graph ι) (original : ι → ι) : Prop where
  once : ∀ i, original (original i) = original i
  label : ∀ i, (graph (original i)).label = (graph i).label
  children : ∀ i, (graph (original i)).children.map original = (graph i).children.map original
  chainFree : ∀ i, original i ≠ i → (graph i).chain = [] ∧ (graph (original i)).chain = []

/-- A graph whose nodes link to copies of what they linked to. -/
structure Relinked (graph other : Graph ι) (original : ι → ι) : Prop where
  label : ∀ i, (other i).label = (graph i).label
  children : ∀ i, (other i).children.map original = (graph i).children.map original
  guards : ∀ i, (other i).chain.map (·.guard) = (graph i).chain.map (·.guard)
  blocks : ∀ i, ((other i).chain.map fun condition => original condition.block) =
    (graph i).chain.map fun condition => original condition.block

/-- The graph in which all links lead to originals. -/
def shared (graph : Graph ι) (original : ι → ι) : Graph ι := fun i =>
  { label := (graph i).label
    children := (graph i).children.map original
    chain := (graph i).chain.map fun condition =>
      ⟨condition.guard, original condition.block, condition.test⟩ }

section

variable {graph other : Graph ι} {original : ι → ι}

theorem Relinked.refl : Relinked graph graph original :=
  ⟨fun _ => rfl, fun _ => rfl, fun _ => rfl, fun _ => rfl⟩

theorem Relinked.chain_eq_nil_iff (hrelinked : Relinked graph other original) (i : ι) :
    (other i).chain = [] ↔ (graph i).chain = [] := by
  have hguards := hrelinked.guards i
  rw [← List.map_eq_nil_iff, hguards, List.map_eq_nil_iff]

theorem Copies.original_of_lead (hcopies : Copies graph original) {i : ι}
    (hlead : (graph i).chain ≠ []) : original i = i := by
  by_contra hcopy
  exact hlead (hcopies.chainFree i hcopy).1

theorem mirrored_shared (hcopies : Copies graph original) (hrelinked : Relinked graph other original) :
    Mirrored other (shared graph original) original where
  label := by
    intro i
    rw [hrelinked.label i, ← hcopies.label i]
    rfl
  children := by
    intro i
    rw [hrelinked.children i, ← hcopies.children i]
    rfl
  guards := by
    intro i
    rw [hrelinked.guards i]
    by_cases hown : original i = i
    · simp [shared, hown]
    · obtain ⟨hcopy, horiginal⟩ := hcopies.chainFree i hown
      simp [shared, hcopy, horiginal]
  blocks := by
    intro i
    rw [hrelinked.blocks i]
    by_cases hown : original i = i
    · simp [shared, hown]
    · obtain ⟨hcopy, horiginal⟩ := hcopies.chainFree i hown
      simp [shared, hcopy, horiginal]
  apart := by
    intro i j hi hj heq
    rw [Ne, hrelinked.chain_eq_nil_iff] at hi hj
    rwa [hcopies.original_of_lead hi, hcopies.original_of_lead hj] at heq

variable [DecidableEq ι]

/-- The chains that are expanded are led by originals. -/
theorem carry_generate (hcopies : Copies graph original) (hrelinked : Relinked graph other original)
    (options : Options) (depth : Nat) (root : ι) :
    (generate other options depth root).carry original = generate other options depth root := by
  have hcorr := (mirrored_shared hcopies hrelinked).corresponds
  obtain ⟨-, hleads⟩ := generate_together hcorr options depth root trivial
  have hown : ∀ i ∈ (generate other options depth root).pass.expanded, original i = id i := by
    intro i hi
    exact hcopies.original_of_lead (mt (hrelinked.chain_eq_nil_iff i).mpr (hleads i hi))
  rw [Outcome.carry, List.map_congr_left hown, List.map_id]

theorem generate_relinked (hcopies : Copies graph original) (hrelinked : Relinked graph other original)
    (options : Options) (depth : Nat) (root : ι) :
    generate other options depth root = generate graph options depth root := by
  rw [← carry_generate hcopies hrelinked, ← carry_generate hcopies .refl,
    ← generate_carried (mirrored_shared hcopies hrelinked),
    ← generate_carried (mirrored_shared hcopies .refl)]

end

/-- **Identity is seen only through chains.** If the nodes of a graph are mapped to nodes of another one
that say the same and link to the images in the same order, and nodes that lead a chain are kept apart,
then the same document is generated from a node and from its image, and the expanded chains are the
images. So nothing depends on what the nodes are identified by, and links may be led to any copies of
the nodes that they led to. -/
theorem identity_seen_only_through_chains [DecidableEq ι] [DecidableEq κ] (graph : Graph ι)
    (options : Options) (depth : Nat) (root : ι) :
    (∀ (other : Graph κ) (f : ι → κ), Mirrored graph other f →
      generate other options depth (f root) = (generate graph options depth root).carry f)
    ∧ (∀ rename : ι ≃ κ, generate (graph.renamed rename) options depth (rename root) =
      (generate graph options depth root).carry rename)
    ∧ ∀ (other : Graph ι) (original : ι → ι), Copies graph original → Relinked graph other original →
      generate other options depth root = generate graph options depth root := by
  refine ⟨?_, ?_, ?_⟩
  · intro other f hmirrored
    exact generate_carried hmirrored options depth root
  · intro rename
    exact generate_carried (mirrored_renamed graph rename) options depth root
  · intro other original hcopies hrelinked
    exact generate_relinked hcopies hrelinked options depth root

/-- A lead that is the first block of its own chain, and two texts that are copies. -/
def twins : Graph (Option Bool)
  | none =>
      { label := { tag := .str "p", handle := .int 1 }
        children := [some false, some true]
        chain := [⟨.ifTrue, none, .null⟩, ⟨.otherwise, some true, .null⟩] }
  | some _ => { label := { kind := .text, text := .str "t", static := true } }

/-- The lead with one text that is shared. -/
def single : Graph Bool
  | false =>
      { label := { tag := .str "p", handle := .int 1 }
        children := [true, true]
        chain := [⟨.ifTrue, false, .null⟩, ⟨.otherwise, true, .null⟩] }
  | true => { label := { kind := .text, text := .str "t", static := true } }

/-- The lead with links to other copies. -/
def relinkedTwins : Graph (Option Bool)
  | none =>
      { label := { tag := .str "p", handle := .int 1 }
        children := [some true, some true]
        chain := [⟨.ifTrue, none, .null⟩, ⟨.otherwise, some false, .null⟩] }
  | some _ => { label := { kind := .text, text := .str "t", static := true } }

theorem identity_seen_only_through_chains_twins :
    (generate twins {} 9 none).failed = false ∧ (generate twins {} 9 none).pass.expanded = [none]
      ∧ Mirrored twins single Option.isSome
      ∧ generate single {} 9 false = (generate twins {} 9 none).carry Option.isSome
      ∧ Copies twins (Option.map fun _ => false)
      ∧ Relinked twins relinkedTwins (Option.map fun _ => false)
      ∧ generate relinkedTwins {} 9 none = generate twins {} 9 none := by
  have hmirrored : Mirrored twins single Option.isSome := by
    refine ⟨?_, ?_, ?_, ?_, ?_⟩
    · rintro (_ | _) <;> rfl
    · rintro (_ | _) <;> rfl
    · rintro (_ | _) <;> rfl
    · rintro (_ | _) <;> rfl
    · rintro (_ | _) (_ | _) <;> simp [twins]
  have hcopies : Copies twins (Option.map fun _ => false) := by
    refine ⟨?_, ?_, ?_, ?_⟩
    · rintro (_ | _) <;> rfl
    · rintro (_ | _) <;> rfl
    · rintro (_ | _) <;> rfl
    · rintro (_ | _) <;> simp [twins]
  have hrelinked : Relinked twins relinkedTwins (Option.map fun _ => false) := by
    refine ⟨?_, ?_, ?_, ?_⟩
    · rintro (_ | _) <;> rfl
    · rintro (_ | _) <;> rfl
    · rintro (_ | _) <;> rfl
    · rintro (_ | _) <;> rfl
  obtain ⟨hcarried, -, hsame⟩ :=
    identity_seen_only_through_chains (κ := Bool) twins {} 9 none
  exact ⟨by rfl, by rfl, hmirrored, hcarried single Option.isSome hmirrored, hcopies, hrelinked,
    hsame relinkedTwins _ hcopies hrelinked⟩

end MiniTemplate
