import FloodRisk.WraHistorical.Kml
import Mathlib.Data.List.Perm.Basic

/-!
# Every historical Placemark is accounted for

The walk and the search for misplaced Placemarks share out the Placemarks that lie in no other.
-/

namespace FloodRisk.WraHistorical

variable {ι : Type} {runtime : Runtime} {placemarkDigest : Element → ι}

/-! ### The Placemarks of a tree -/

/-- The Placemarks without a Placemark ancestor. -/
def topPlacemarksBelow (inPlacemark : Bool) (element : Element) : List Element :=
  Rose.collect
    (fun inside element => if !inside && tagOf element = kmlPlacemark then [element] else [])
    (fun inside element _ => inside || tagOf element = kmlPlacemark) inPlacemark element

def topPlacemarks (root : Element) : List Element := topPlacemarksBelow false root

/-- What the walk hands down; nothing where it does not go. -/
def walkBelow (runtime : Runtime) (inherited : Option Inherited) (element child : Element) :
    Option Inherited :=
  match inherited with
  | none => none
  | some inherited =>
      if tagOf element ≠ kmlPlacemark ∧ tagOf child ∈ kmlPlacemark :: kmlContainerTags then
        some (inheritedAt runtime inherited element)
      else none

def walkEmit (runtime : Runtime) (inherited : Option Inherited) (element : Element) :
    List (Inherited × Element) :=
  match inherited with
  | none => []
  | some inherited =>
      if tagOf element = kmlPlacemark then [(inheritedAt runtime inherited element, element)]
      else []

/-- The Placemarks that the walk comes to, with what they inherit. -/
def walked (runtime : Runtime) (inherited : Option Inherited) (element : Element) :
    List (Inherited × Element) :=
  Rose.collect (walkEmit runtime) (walkBelow runtime) inherited element

def misplaced (reach : Reach) (element : Element) : List Element :=
  Rose.collect misplacedBelow reachBelow reach element

/-- An element that the search for misplaced Placemarks takes from its parent. -/
def misplacedSelf (reach : Reach) (element : Element) : List Element :=
  if tagOf element = kmlPlacemark && !reach.reachable && !reach.inPlacemark then [element] else []

theorem flatMap_ite_singleton {α : Type} (keep : α → Bool) (l : List α) :
    (l.flatMap fun a => if keep a then [a] else []) = l.filter keep := by
  induction l with
  | nil => rfl
  | cons a l ih =>
    rw [List.flatMap_cons, ih, List.filter_cons]
    split_ifs <;> rfl

theorem misplacedBelow_perm (reach : Reach) (element : Element) :
    (element.children.flatMap fun child => misplacedSelf (reachBelow reach element child) child).Perm
      (misplacedBelow reach element) := by
  unfold misplacedSelf misplacedBelow
  rw [flatMap_ite_singleton, List.filter_reverse]
  exact (List.reverse_perm _).symm

/-- What the walk and the search hand down agrees. -/
theorem reachBelow_walkBelow {inherited : Option Inherited} {reach : Reach}
    (hreach : reach.reachable = inherited.isSome)
    (hout : reach.reachable = true → reach.inPlacemark = false) (element child : Element) :
    (reachBelow reach element child).reachable =
        (walkBelow runtime inherited element child).isSome ∧
      ((reachBelow reach element child).reachable = true →
        (reachBelow reach element child).inPlacemark = false) := by
  unfold reachBelow walkBelow
  cases inherited with
  | none =>
    rw [Option.isSome_none] at hreach
    simp [hreach]
  | some inherited =>
    rw [Option.isSome_some] at hreach
    have hin := hout hreach
    dsimp only
    by_cases hplacemark : tagOf element = kmlPlacemark
    · simp [hplacemark]
    · by_cases hgoes : tagOf child ∈ kmlPlacemark :: kmlContainerTags
      · rw [if_pos ⟨hplacemark, hgoes⟩]
        have hchild : (tagOf child ∈ kmlContainerTags || decide (tagOf child = kmlPlacemark)) =
            true := by
          rcases List.mem_cons.mp hgoes with heq | hmem
          · simp [heq]
          · simp [hmem]
        simp [hreach, hin, hplacemark, hchild]
      · rw [if_neg fun h => hgoes h.2]
        have hchild : (tagOf child ∈ kmlContainerTags || decide (tagOf child = kmlPlacemark)) =
            false := by
          rw [List.mem_cons, not_or] at hgoes
          simp [hgoes.1, hgoes.2]
        simp [hchild]

/-- A Placemark in no other is taken where it is walked to or misplaced. -/
theorem topPlacemark_emit {inherited : Option Inherited} {reach : Reach}
    (hreach : reach.reachable = inherited.isSome)
    (hout : reach.reachable = true → reach.inPlacemark = false) (element : Element) :
    (if !reach.inPlacemark && tagOf element = kmlPlacemark then [element] else []) =
      (walkEmit runtime inherited element).map Prod.snd ++ misplacedSelf reach element := by
  unfold walkEmit misplacedSelf
  by_cases hplacemark : tagOf element = kmlPlacemark
  · cases inherited with
    | none =>
      rw [Option.isSome_none] at hreach
      cases hin : reach.inPlacemark <;> simp [hreach, hplacemark]
    | some inherited =>
      rw [Option.isSome_some] at hreach
      simp [hreach, hplacemark, hout hreach]
  · cases inherited <;> simp [hplacemark]

/-- The walk and the search share out the Placemarks that lie in no other. -/
theorem topPlacemarksBelow_perm (element : Element) :
    ∀ (inherited : Option Inherited) (reach : Reach), reach.reachable = inherited.isSome →
      (reach.reachable = true → reach.inPlacemark = false) →
      (topPlacemarksBelow reach.inPlacemark element).Perm
        ((walked runtime inherited element).map Prod.snd ++
          (misplacedSelf reach element ++ misplaced reach element)) := by
  induction element using Rose.induction_on with
  | h data children ih =>
    intro inherited reach hreach hout
    have hchild : ∀ child ∈ children,
        (topPlacemarksBelow (reachBelow reach (.node data children) child).inPlacemark child).Perm
        ((walked runtime (walkBelow runtime inherited (.node data children) child) child).map
            Prod.snd ++
          (misplacedSelf (reachBelow reach (.node data children) child) child ++
            misplaced (reachBelow reach (.node data children) child) child)) := by
      intro child hmem
      obtain ⟨hreach', hout'⟩ :=
        @reachBelow_walkBelow runtime inherited reach hreach hout (.node data children) child
      exact ih child hmem _ _ hreach' hout'
    have hshared := (List.Perm.flatMap_left children hchild).trans
      ((List.flatMap_append_perm children _ _).symm.trans
        ((List.flatMap_append_perm children _ _).symm.append_left _))
    have hself : (children.flatMap fun child =>
        misplacedSelf (reachBelow reach (.node data children) child) child).Perm
          (misplacedBelow reach (.node data children)) :=
      misplacedBelow_perm reach (.node data children)
    have hemit := @topPlacemark_emit runtime inherited reach hreach hout (.node data children)
    unfold topPlacemarksBelow walked misplaced
    rw [Rose.collect_node, Rose.collect_node, Rose.collect_node, hemit, List.map_append,
      List.map_flatMap, List.append_assoc, List.append_assoc]
    apply List.Perm.append_left
    refine (hshared.trans ((hself.append_right _).append_left _)).append_left _ |>.trans ?_
    exact List.perm_append_comm_assoc _ _ _

/-! ### The entries -/

/-- The entry of a Placemark that is walked to. -/
def walkedEntry (runtime : Runtime) (placemarkDigest : Element → ι)
    (place : Inherited × Element) : Element × (Record ⊕ ι) :=
  match placemarkRecord runtime place.1 place.2 with
  | some record => (place.2, .inl record)
  | none => (place.2, .inr (placemarkDigest place.2))

def recordsOf (entries : List (Element × (Record ⊕ ι))) : List Record :=
  entries.filterMap fun entry => entry.2.getLeft?

def rejectionsOf (entries : List (Element × (Record ⊕ ι))) : List ι :=
  entries.filterMap fun entry => entry.2.getRight?

theorem walked_node (inherited : Option Inherited) (data : ElementData) (children : List Element) :
    walked runtime inherited (.node data children) =
      walkEmit runtime inherited (.node data children) ++ children.flatMap fun child =>
        walked runtime (walkBelow runtime inherited (.node data children) child) child :=
  Rose.collect_node inherited data children

theorem walked_none (element : Element) : walked runtime none element = [] := by
  induction element using Rose.induction_on with
  | h data children ih =>
    rw [walked_node]
    exact List.flatMap_eq_nil_iff.mpr ih

/-- The walk appends the entries of the Placemarks it comes to. -/
theorem walkKml_eq (element : Element) :
    ∀ (inherited : Inherited) (found : List Record × List ι),
      walkKml runtime placemarkDigest inherited element found =
        (found.1 ++ recordsOf ((walked runtime (some inherited) element).map
            (walkedEntry runtime placemarkDigest)),
          found.2 ++ rejectionsOf ((walked runtime (some inherited) element).map
            (walkedEntry runtime placemarkDigest))) := by
  induction element using Rose.induction_on with
  | h data children ih =>
    intro inherited found
    have hchildren : ∀ here (rest : List Element), (∀ c ∈ rest, c ∈ children) → ∀ found,
        walkChildren runtime placemarkDigest here rest found =
          (found.1 ++ recordsOf ((rest.flatMap fun child => walked runtime
              (if tagOf child ∈ kmlPlacemark :: kmlContainerTags then some here else none)
              child).map (walkedEntry runtime placemarkDigest)),
            found.2 ++ rejectionsOf ((rest.flatMap fun child => walked runtime
              (if tagOf child ∈ kmlPlacemark :: kmlContainerTags then some here else none)
              child).map (walkedEntry runtime placemarkDigest))) := by
      intro here rest
      induction rest with
      | nil => exact fun _ found => by simp [walkChildren, recordsOf, rejectionsOf]
      | cons child rest ihRest =>
        intro hrest found
        rw [walkChildren]
        split_ifs with hgoes
        · rw [ihRest (fun c hc => hrest c (List.mem_cons_of_mem _ hc)),
            ih child (hrest child List.mem_cons_self)]
          simp only [recordsOf, rejectionsOf, List.flatMap_cons, hgoes, if_true, List.map_append,
            List.filterMap_append, List.append_assoc]
        · rw [ihRest fun c hc => hrest c (List.mem_cons_of_mem _ hc)]
          simp only [List.flatMap_cons, hgoes, if_false, walked_none, List.nil_append]
    rw [walkKml]
    by_cases hplacemark : data.tag = kmlPlacemark
    · have hnone : (children.flatMap fun child => walked runtime
          (walkBelow runtime (some inherited) (.node data children) child) child) = [] := by
        rw [List.flatMap_eq_nil_iff]
        intro child _
        have hstops : walkBelow runtime (some inherited) (.node data children) child = none :=
          if_neg fun h => h.1 hplacemark
        rw [hstops, walked_none]
      have hemit : walkEmit runtime (some inherited) (.node data children) =
          [(inheritedAt runtime inherited (.node data children), .node data children)] :=
        if_pos hplacemark
      rw [if_pos hplacemark, walked_node, hnone, hemit]
      cases hrecord : placemarkRecord runtime
          (inheritedAt runtime inherited (.node data children)) (.node data children) with
      | some record => simp [recordsOf, rejectionsOf, walkedEntry, hrecord]
      | none => simp [recordsOf, rejectionsOf, walkedEntry, hrecord]
    · have hemit : walkEmit runtime (some inherited) (.node data children) = [] :=
        if_neg hplacemark
      have hbelow : ∀ child, walkBelow runtime (some inherited) (.node data children) child =
          if tagOf child ∈ kmlPlacemark :: kmlContainerTags then
            some (inheritedAt runtime inherited (.node data children)) else none := by
        intro child
        have hsame : (tagOf (.node data children) ≠ kmlPlacemark ∧
            tagOf child ∈ kmlPlacemark :: kmlContainerTags) ↔
              tagOf child ∈ kmlPlacemark :: kmlContainerTags :=
          and_iff_right hplacemark
        simp only [walkBelow, hsame]
      rw [if_neg hplacemark, hchildren _ children (fun c hc => hc), walked_node, hemit]
      simp only [hbelow, List.nil_append]

/-! ### Placemarks in Placemarks -/

theorem nodes_node (data : ElementData) (children : List Element) :
    (Rose.node data children).nodes = .node data children :: children.flatMap Rose.nodes := by
  unfold Rose.nodes
  rw [Rose.collect_node]
  rfl

/-- Every element below another is asked about. -/
theorem exists_asked (element : Element) : ∀ parentTag, ∀ below ∈ element.nodes, ∃ asked,
    graphAllows asked below ∈ Rose.collect
      (fun parentTag element => [graphAllows parentTag element]) (fun _ element _ => tagOf element)
      parentTag element := by
  induction element using Rose.induction_on with
  | h data children ih =>
    intro parentTag below hbelow
    rw [nodes_node] at hbelow
    rw [Rose.collect_node]
    rcases List.mem_cons.mp hbelow with rfl | hbelow
    · exact ⟨parentTag, List.mem_append_left _ List.mem_cons_self⟩
    · obtain ⟨child, hchild, hnode⟩ := List.mem_flatMap.mp hbelow
      obtain ⟨asked, hasked⟩ := ih child hchild (tagOf (.node data children)) below hnode
      exact ⟨asked, List.mem_append_right _ (List.mem_flatMap.mpr ⟨child, hchild, hasked⟩)⟩

def containsPlacemark (element : Element) : Prop :=
  ∃ child ∈ element.children, ∃ below ∈ child.nodes, tagOf below = kmlPlacemark

theorem graphAllows_placemark {parentTag : String} {element : Element}
    (h : tagOf element = kmlPlacemark) : graphAllows parentTag element = false := by
  unfold graphAllows
  rw [h]
  simp

/-- A Placemark that contains another one has no record. -/
theorem placemarkRecord_of_contains {inherited : Inherited} {placemark : Element}
    (h : containsPlacemark placemark) : placemarkRecord runtime inherited placemark = none := by
  obtain ⟨child, hchild, below, hbelow, htag⟩ := h
  have hgraph : validPlacemarkGeometryGraph placemark = false := by
    by_contra hvalid
    rw [Bool.not_eq_false, validPlacemarkGeometryGraph, List.all_eq_true] at hvalid
    obtain ⟨asked, hasked⟩ := exists_asked child (tagOf placemark) below hbelow
    have hallowed := hvalid _ (List.mem_flatMap.mpr ⟨child, hchild, hasked⟩)
    rw [graphAllows_placemark htag] at hallowed
    cases hallowed
  have hgeometry : placemarkGeometry runtime placemark = none := by
    rw [placemarkGeometry, hgraph]
    rfl
  rw [placemarkRecord, hgeometry]

end FloodRisk.WraHistorical
