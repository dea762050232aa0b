import AsmNavigator.Data.Yaml.Reader
import AsmNavigator.Proofs.Data.Keys

/-! # Documents hold every key once

Whatever a document looks like, its value is proper: of a repeated key, also of one that a
merge key brings in, one entry is left, and knots are lists or mappings.
-/

namespace AsmNavigator.Yaml

namespace Workshop

variable {α β : Type}

/-- A mapping among the parts holds every key once. -/
def AreDistinct : Parts → Prop
  | .map entries => (Scalar.identities entries).Nodup
  | _ => True

def PartsDistinct (parts : Array (Option Parts)) : Prop :=
  ∀ (id : NodeId) (content : Parts), parts[id]? = some (some content) → AreDistinct content

theorem PartsDistinct.set {parts : Array (Option Parts)} (h : PartsDistinct parts)
    {content : Parts} (hcontent : AreDistinct content) (id : NodeId) :
    PartsDistinct (parts.set! id (some content)) := by
  intro other found hfound
  rw [Array.set!_eq_setIfInBounds, Array.getElem?_setIfInBounds] at hfound
  split at hfound
  · split at hfound
    · cases hfound
      exact hcontent
    · cases hfound
  · exact h other found hfound

/-- A piece of work that keeps the collections distinct; its results satisfy `P`. -/
def Keeps (x : Work α) (P : α → Prop) : Prop :=
  ∀ shop a shop', PartsDistinct shop.parts → x shop = .ok (a, shop') →
    PartsDistinct shop'.parts ∧ P a

namespace Keeps

variable {P : α → Prop} {Q : β → Prop}

theorem pure {a : α} (h : P a) : Keeps (Pure.pure a : Work α) P := by
  intro shop b shop' hparts hrun
  cases hrun
  exact ⟨hparts, h⟩

theorem throw (fault : Fault) : Keeps (MonadExcept.throw fault : Work α) P := by
  intro shop a shop' hparts hrun
  cases hrun

theorem get : Keeps (MonadState.get : Work Workshop) fun _ => True := by
  intro shop a shop' hparts hrun
  cases hrun
  exact ⟨hparts, trivial⟩

theorem modify {change : Workshop → Workshop}
    (h : ∀ shop, PartsDistinct shop.parts → PartsDistinct (change shop).parts) :
    Keeps (modify change : Work Unit) fun _ => True := by
  intro shop a shop' hparts hrun
  cases hrun
  exact ⟨h shop hparts, trivial⟩

theorem lift (outcome : Except Fault α) : Keeps (liftM outcome : Work α) fun _ => True := by
  intro shop a shop' hparts hrun
  cases outcome with
  | error fault => cases hrun
  | ok b =>
      cases hrun
      exact ⟨hparts, trivial⟩

theorem bind {x : Work α} {f : α → Work β} (hx : Keeps x P) (hf : ∀ a, P a → Keeps (f a) Q) :
    Keeps (x >>= f) Q := by
  intro shop b shop' hparts hrun
  have hrun : (x shop >>= fun r => f r.1 r.2) = .ok (b, shop') := hrun
  cases hfirst : x shop with
  | error fault =>
      rw [hfirst] at hrun
      cases hrun
  | ok result =>
      obtain ⟨a, middle⟩ := result
      rw [hfirst] at hrun
      obtain ⟨hmiddle, ha⟩ := hx shop a middle hparts hfirst
      exact hf a ha middle b shop' hmiddle hrun

theorem mapM {f : α → Work β} (h : ∀ a, Keeps (f a) fun _ => True) (items : List α) :
    Keeps (items.mapM f) fun _ => True := by
  induction items with
  | nil =>
      rw [List.mapM_nil]
      exact pure trivial
  | cons a rest ih =>
      rw [List.mapM_cons]
      exact (h a).bind fun b _ => ih.bind fun bs _ => pure trivial

theorem foldlM {f : β → α → Work β} (h : ∀ b a, Q b → Keeps (f b a) Q) (items : List α) {b : β}
    (hb : Q b) : Keeps (items.foldlM f b) Q := by
  induction items generalizing b with
  | nil =>
      rw [List.foldlM_nil]
      exact pure hb
  | cons a rest ih =>
      rw [List.foldlM_cons]
      exact (h b a hb).bind fun next hnext => ih hnext

theorem findM? {f : α → Work Bool} (h : ∀ a, Keeps (f a) fun _ => True) (items : List α) :
    Keeps (items.findM? f) fun _ => True := by
  induction items with
  | nil => exact pure trivial
  | cons a rest ih =>
      refine (h a).bind fun found _ => ?_
      cases found with
      | true => exact pure trivial
      | false => exact ih

end Keeps

theorem keeps_malformed {P : α → Prop} : Keeps (malformed : Work α) P := Keeps.throw _

theorem keeps_nodeAt (id : NodeId) : Keeps (nodeAt id) fun _ => True := by
  refine Keeps.get.bind fun shop _ => ?_
  cases shop.graph[id]? with
  | none => exact keeps_malformed
  | some node => exact .pure trivial

theorem keeps_setNode (id : NodeId) (node : Node) : Keeps (setNode id node) fun _ => True :=
  Keeps.modify fun _ h => h

theorem keeps_textOf (fuel : Nat) (id : NodeId) : Keeps (textOf fuel id) fun _ => True := by
  induction fuel generalizing id with
  | zero => exact .throw _
  | succ fuel ih =>
      refine (keeps_nodeAt id).bind fun node _ => ?_
      cases node.content with
      | scalar text => exact .pure trivial
      | sequence items => exact keeps_malformed
      | mapping pairs =>
          have htag : ∀ pair : NodeId × NodeId, Keeps
              (do return (← nodeAt pair.1).tag = .value : Work Bool) fun _ => True :=
            fun pair => (keeps_nodeAt _).bind fun _ _ => .pure trivial
          refine (Keeps.findM? htag pairs).bind fun found? _ => ?_
          cases found? with
          | none => exact keeps_malformed
          | some pair => exact ih pair.2

theorem keeps_scalarAt (id : NodeId) (node : Node) : Keeps (scalarAt id node) fun _ => True := by
  refine Keeps.get.bind fun shop _ => (keeps_textOf _ id).bind fun text _ => ?_
  split
  · exact .throw _
  · exact .lift _

theorem keeps_refOf (id : NodeId) : Keeps (refOf id) fun _ => True := by
  refine Keeps.get.bind fun shop _ => ?_
  split
  · exact .pure trivial
  · refine (keeps_nodeAt id).bind fun node _ => ?_
    have hstore : ∀ ref : Ref, Keeps (do
        modify fun shop => { shop with refs := shop.refs.set! id (some ref) }
        return ref : Work Ref) fun _ => True := by
      intro ref
      refine Keeps.bind (P := fun _ => True) ?_ fun _ _ => .pure trivial
      exact .modify fun _ h => h
    split
    · refine Keeps.bind (P := fun _ => True) ?_ fun _ _ => hstore _
      exact .modify fun _ h => h
    · split
      · exact (keeps_malformed (P := fun _ => True)).bind fun _ _ => hstore _
      · exact (keeps_scalarAt id node).bind fun _ _ => hstore _

/-! ## Mappings -/

theorem keeps_sortPairs (pairs : List (NodeId × NodeId)) :
    Keeps (sortPairs pairs) fun _ => True := by
  induction pairs with
  | nil => exact .pure trivial
  | cons pair rest ih =>
      refine (keeps_nodeAt pair.1).bind fun node _ => ?_
      split
      · exact ih.bind fun _ _ => .pure trivial
      · have hown := ih.bind (Q := fun _ => True) fun sorted _ =>
          .pure (a := ((pair.1, pair.2) :: sorted.1, sorted.2)) trivial
        split
        · exact (keeps_setNode _ _).bind fun _ _ => hown
        · exact hown

theorem keeps_mergeSources (id : NodeId) : Keeps (mergeSources id) fun _ => True := by
  refine (keeps_nodeAt id).bind fun node _ => ?_
  cases node.content with
  | scalar text => exact keeps_malformed
  | sequence items => exact .pure trivial
  | mapping pairs => exact .pure trivial

theorem keeps_flatten (fuel : Nat) (id : NodeId) : Keeps (flatten fuel id) fun _ => True := by
  induction fuel generalizing id with
  | zero => exact keeps_malformed
  | succ fuel ih =>
      refine (keeps_nodeAt id).bind fun node _ => ?_
      cases node.content with
      | scalar text => exact keeps_malformed
      | sequence items => exact keeps_malformed
      | mapping pairs =>
          refine (keeps_sortPairs pairs).bind fun sorted _ => ?_
          obtain ⟨own, merged⟩ := sorted
          simp only
          split
          · exact .pure trivial
          · refine (keeps_setNode id _).bind fun _ _ => ?_
            refine (Keeps.mapM keeps_mergeSources merged).bind fun sources _ => ?_
            refine (Keeps.mapM ih sources.flatten).bind fun taken _ => ?_
            exact (keeps_setNode id _).bind fun _ _ => .pure trivial

theorem keeps_keyOf (id : NodeId) : Keeps (keyOf id) fun _ => True := by
  refine (keeps_refOf id).bind fun ref _ => ?_
  cases ref with
  | scalar key => exact .pure trivial
  | collection id => exact keeps_malformed

theorem keeps_entriesOf (pairs : List (NodeId × NodeId)) :
    Keeps (entriesOf pairs) fun entries => (Scalar.identities entries).Nodup := by
  refine Keeps.foldlM (fun entries pair hentries => ?_) pairs (by simp [Scalar.identities])
  refine (keeps_keyOf pair.1).bind fun key _ => (keeps_refOf pair.2).bind fun ref _ => ?_
  exact .pure (Scalar.nodup_put hentries key ref)

theorem keeps_mappingEntries (id : NodeId) :
    Keeps (mappingEntries id) fun entries => (Scalar.identities entries).Nodup :=
  Keeps.get.bind fun _ _ => (keeps_flatten _ id).bind fun pairs _ => keeps_entriesOf pairs

/-! ## Collections -/

theorem keeps_singlePair (id : NodeId) : Keeps (singlePair id) fun _ => True := by
  refine (keeps_nodeAt id).bind fun node _ => ?_
  split
  · exact (keeps_refOf _).bind fun _ _ => (keeps_refOf _).bind fun _ _ => .pure trivial
  · exact keeps_malformed

theorem keeps_itemsOf (id : NodeId) : Keeps (itemsOf id) fun _ => True := by
  refine (keeps_nodeAt id).bind fun node _ => ?_
  split
  · exact .pure trivial
  · exact keeps_malformed

theorem keeps_partsOf (id : NodeId) : Keeps (partsOf id) AreDistinct := by
  refine (keeps_nodeAt id).bind fun node _ => ?_
  split
  · refine (keeps_itemsOf id).bind fun items _ => ?_
    exact (Keeps.mapM keeps_refOf items).bind fun _ _ => .pure trivial
  · exact (keeps_mappingEntries id).bind fun entries hentries => .pure hentries
  · exact (keeps_mappingEntries id).bind fun entries _ => .pure trivial
  · refine (keeps_itemsOf id).bind fun items _ => ?_
    exact (Keeps.mapM keeps_singlePair items).bind fun _ _ => .pure trivial
  · exact keeps_malformed

theorem keeps_completeAll (fuel : Nat) (waiting : List NodeId) :
    Keeps (completeAll fuel waiting) fun _ => True := by
  induction fuel generalizing waiting with
  | zero => exact .pure trivial
  | succ fuel ih =>
      cases waiting with
      | nil =>
          refine Keeps.get.bind fun shop _ => ?_
          simp only
          split
          · exact .pure trivial
          · refine Keeps.bind (P := fun _ => True) ?_ fun _ _ => ih _
            exact .modify fun _ h => h
      | cons id rest =>
          refine (keeps_partsOf id).bind fun content hcontent => ?_
          refine Keeps.bind (P := fun _ => True) ?_ fun _ _ => ih rest
          exact .modify fun _ h => h.set hcontent id

theorem keeps_document (root : NodeId) : Keeps (document root) fun _ => True := by
  refine (keeps_refOf root).bind fun ref _ => Keeps.get.bind fun shop _ => ?_
  exact (keeps_completeAll _ []).bind fun _ _ => .pure trivial

theorem partsDistinct_start (graph : Graph) : PartsDistinct (start graph).parts := by
  intro id content h
  simp only [start, Array.getElem?_replicate] at h
  split at h <;> cases h

end Workshop

namespace Parts

open Workshop (AreDistinct PartsDistinct)

variable {α β : Type}

def KnownProper (known : Known) : Prop :=
  ∀ (id : NodeId) (value : Value), known[id]? = some (some value) → value.IsProper

/-- An unfolding that keeps the known values proper; its results satisfy `P`. -/
def Yields (x : StateM Known α) (P : α → Prop) : Prop :=
  ∀ known, KnownProper known → P (x known).1 ∧ KnownProper (x known).2

namespace Yields

variable {P : α → Prop} {Q : β → Prop}

theorem pure {a : α} (h : P a) : Yields (Pure.pure a : StateM Known α) P :=
  fun _ hknown => ⟨h, hknown⟩

theorem bind {x : StateM Known α} {f : α → StateM Known β} (hx : Yields x P)
    (hf : ∀ a, P a → Yields (f a) Q) : Yields (x >>= f) Q := by
  intro known hknown
  obtain ⟨ha, hmiddle⟩ := hx known hknown
  exact hf _ ha _ hmiddle

theorem get : Yields (MonadState.get : StateM Known Known) KnownProper :=
  fun _ hknown => ⟨hknown, hknown⟩

theorem modify {change : Known → Known}
    (h : ∀ known, KnownProper known → KnownProper (change known)) :
    Yields (modify change : StateM Known Unit) fun _ => True :=
  fun known hknown => ⟨trivial, h known hknown⟩

theorem mapM {f : α → StateM Known β} (h : ∀ a, Yields (f a) Q) (items : List α) :
    Yields (items.mapM f) fun results => ∀ b ∈ results, Q b := by
  induction items with
  | nil =>
      rw [List.mapM_nil]
      exact pure (by simp)
  | cons a rest ih =>
      rw [List.mapM_cons]
      refine (h a).bind fun b hb => ih.bind fun results hresults => pure ?_
      simpa using ⟨hb, hresults⟩

theorem mapM_entries {κ : Type} {f : κ × α → StateM Known (κ × β)}
    (h : ∀ entry, Yields (f entry) fun result => result.1 = entry.1 ∧ Q result.2)
    (entries : List (κ × α)) : Yields (entries.mapM f) fun results =>
      results.map (·.1) = entries.map (·.1) ∧ ∀ result ∈ results, Q result.2 := by
  induction entries with
  | nil =>
      rw [List.mapM_nil]
      exact pure (by simp)
  | cons entry rest ih =>
      rw [List.mapM_cons]
      refine (h entry).bind fun result hresult => ih.bind fun results hresults => pure ?_
      refine ⟨by rw [List.map_cons, List.map_cons, hresult.1, hresults.1], fun part hpart => ?_⟩
      rcases List.mem_cons.mp hpart with rfl | hpart
      · exact hresult.2
      · exact hresults.2 part hpart

end Yields

def IsProperUnfolding (unfolding : Unfolding) : Prop := unfolding.value.IsProper

theorem isProper_labelled {body : Value} (hbody : body.isKnottable = true) (h : body.IsProper)
    (id : NodeId) (links : List NodeId) : IsProperUnfolding (labelled id body links) := by
  unfold labelled
  split
  · exact h
  · exact .knot hbody h

theorem yields_unfoldWith {unfold : Ref → StateM Known Unfolding}
    (h : ∀ ref, Yields (unfold ref) IsProperUnfolding) (id : NodeId) {content : Parts}
    (hcontent : AreDistinct content) : Yields (content.unfoldWith id unfold) IsProperUnfolding := by
  cases content with
  | list items =>
      refine (Yields.mapM h items).bind fun parts hparts => .pure ?_
      refine isProper_labelled rfl (.list fun item hitem => ?_) _ _
      obtain ⟨part, hpart, rfl⟩ := List.mem_map.mp hitem
      exact hparts part hpart
  | map entries =>
      have hentry : ∀ entry : Scalar × Ref, Yields (do return (entry.1, ← unfold entry.2))
          fun result => result.1 = entry.1 ∧ IsProperUnfolding result.2 :=
        fun entry => (h entry.2).bind fun unfolding hunfolding => .pure ⟨rfl, hunfolding⟩
      refine (Yields.mapM_entries hentry entries).bind fun parts hparts => .pure ?_
      obtain ⟨hkeys, hproper⟩ := hparts
      refine isProper_labelled rfl (.map ?_ fun entry hentry => ?_) _ _
      · have hparts : (parts.map fun part => (part.1, part.2.value)).map (·.1) =
            entries.map (·.1) := by
          rw [← hkeys, List.map_map]
          rfl
        rw [Scalar.identities_eq, hparts, ← Scalar.identities_eq]
        exact hcontent
      · obtain ⟨part, hpart, rfl⟩ := List.mem_map.mp hentry
        exact hproper part hpart
  | set members => exact .pure (.set members)
  | pairs items =>
      have hitem : ∀ item : Ref × Ref, Yields (do return (← unfold item.1, ← unfold item.2))
          fun result => IsProperUnfolding result.1 ∧ IsProperUnfolding result.2 :=
        fun item => (h item.1).bind fun first hfirst => (h item.2).bind fun second hsecond =>
          .pure ⟨hfirst, hsecond⟩
      refine (Yields.mapM hitem items).bind fun parts hparts => .pure ?_
      refine isProper_labelled rfl (.list fun value hvalue => ?_) _ _
      obtain ⟨part, hpart, rfl⟩ := List.mem_map.mp hvalue
      exact .pair (hparts part hpart).1 (hparts part hpart).2

theorem KnownProper.set {known : Known} (h : KnownProper known) {value : Value}
    (hvalue : value.IsProper) (id : NodeId) : KnownProper (known.set! id (some value)) := by
  intro other found hfound
  rw [Array.set!_eq_setIfInBounds, Array.getElem?_setIfInBounds] at hfound
  split at hfound
  · split at hfound
    · cases hfound
      exact hvalue
    · cases hfound
  · exact h other found hfound

/-- Collections that hold every key once unfold to proper values. -/
theorem yields_unfold {parts : Array (Option Parts)} (hparts : PartsDistinct parts) (fuel : Nat)
    (around : List NodeId) (ref : Ref) :
    Yields (unfold parts fuel around ref) IsProperUnfolding := by
  induction fuel generalizing around ref with
  | zero =>
      cases ref with
      | scalar s => exact .pure (.scalar s)
      | collection id => exact .pure (.scalar .null)
  | succ fuel ih =>
      cases ref with
      | scalar s => exact .pure (.scalar s)
      | collection id =>
          unfold Parts.unfold
          split
          · exact .pure (.link id)
          · refine Yields.get.bind fun known hknown => ?_
            split
            · next value hvalue => exact .pure (hknown id value hvalue)
            · next content hcontent _ =>
                refine (yields_unfoldWith (fun ref => ih (id :: around) ref) id
                  (hparts id content hcontent)).bind fun unfolding hunfolding => ?_
                split
                · refine Yields.bind (P := fun _ => True) ?_ fun _ _ => .pure hunfolding
                  exact .modify fun known hknown => hknown.set hunfolding id
                · exact .pure hunfolding
            · exact .pure (.scalar .null)

end Parts

/-- The value of a document is proper. -/
theorem isProper_of_read {stream : Stream} {value : Value} (h : read stream = .ok value) :
    value.IsProper := by
  unfold read at h
  rcases hgraph : Graph.ofScan (.ofStream stream) with fault | ⟨_ | root, graph⟩
  · rw [hgraph] at h
    cases h
  · rw [hgraph] at h
    cases h
    exact .scalar .null
  · rw [hgraph] at h
    simp only [bind, Except.bind] at h
    rcases hdocument : (Workshop.document root).run (.start graph) with fault | ⟨ref, shop⟩
    · rw [hdocument] at h
      cases h
    · rw [hdocument] at h
      cases h
      have hparts := (Workshop.keeps_document root _ ref shop
        (Workshop.partsDistinct_start graph) hdocument).1
      have hstart : Parts.KnownProper (Array.replicate graph.size none) := by
        intro id value hvalue
        rw [Array.getElem?_replicate] at hvalue
        split at hvalue <;> cases hvalue
      exact (Parts.yields_unfold hparts _ [] ref _ hstart).1

end AsmNavigator.Yaml
