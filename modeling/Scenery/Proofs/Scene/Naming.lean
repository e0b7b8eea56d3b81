import Scenery.Proofs.Scene.History
import Scenery.Proofs.Scene.Requests

/-!
# Names of new nodes

The edits ask for the names of the nodes that they add, one after another, and each request is answered
by the search for a name.  Names are never given back, so a box that is created later stands at a later
place of the count, and the numbers of boxes increase until the counter goes around.

* `Naming`                 how the edits name the nodes that they add to a scene
* `BoxNumbers`             the numbers of the boxes that are created one after another
* `naming_ofCalls`         names in the scenes that arise
* `not_isMet_crowd`        a scene in which the numbers for a name have run out
-/

namespace Scenery.Scene

variable {α : Type} {s s' : Scene α}

/-- The names that the nodes of a scene bear. -/
def taken (s : Scene α) : Set String :=
  {name | ∃ h, s.name h = .ok name}

/-- Names that are taken stay so. -/
theorem Keeps.taken_subset {did : Call α → Prop} (hkeeps : Keeps did s s') : s.taken ⊆ s'.taken := by
  intro name hname
  obtain ⟨h, hh⟩ := hname
  exact ⟨h, hkeeps.name_eq_ok hh⟩

/-! ### The table of names -/

/-- The table has the names of the nodes. -/
private theorem taken_eq_tabled (hwell : s.WellFormed) : s.taken = s.tabled :=
  Set.ext fun _ => hwell.hasName_iff.symm

/-- A node that is put in adds its name to the table. -/
private theorem tabled_push (name : String) (parent : Option Nat) (data : NodeData α) :
    (s.push name parent data).tabled = s.tabled ∪ {name} := by
  ext other
  simp only [tabled, hasName, names_push, List.lookup_cons, Set.mem_ofPred_eq, Set.mem_union,
    Set.mem_singleton_iff]
  by_cases hother : other = name
  · simp [hother]
  · simp [hother, beq_false_of_ne hother]

/-- An object adds two names to the table. -/
private theorem tabled_withShape (name : String) (t : Transform α) (shape : NodeData α) :
    (s.withShape name t shape).tabled =
      s.tabled ∪ {s.freeName name} ∪ {s.shapeName name t} := by
  unfold withShape
  dsimp only
  rw [tabled_push, tabled_push]
  rfl

/-- The names of the places before the first free one belong to different nodes. -/
private theorem WellFormed.firstPlace_le (hwell : s.WellFormed) {stem : String} {k : Nat}
    (hk : IsFirstPlace s.tabled stem k) : k ≤ s.nodes.size := by
  have hsubset : countedNames stem k ⊆ s.nodes.toList.map Node.name := by
    intro name hname
    obtain ⟨i, hi, rfl⟩ := List.mem_map.1 hname
    have htaken : s.hasName (numbered stem (counted i)) = true := hk.taken_of_lt (List.mem_range.1 hi)
    obtain ⟨j, hj⟩ := Option.isSome_iff_exists.1 htaken
    obtain ⟨n, hn, hname⟩ := (hwell.lookup _ j).1 hj
    exact List.mem_map.2 ⟨n, Array.mem_toList_iff.2 (Array.mem_of_getElem? hn), hname⟩
  have hlen := (nodup_countedNames stem k).length_le_of_subset hsubset
  simpa [countedNames] using hlen

/-! ### Names that are given -/

/-- Nodes that a scene has room for: there are no handles for more. -/
def capacity : Nat := 4294967294

/-- The numbered name is the one that the search finds, as a scene has fewer nodes than the counter has
numbers. -/
private theorem givesNumber_nextName (hwell : s.WellFormed) (hroom : s.nodes.size ≤ capacity)
    (name : String) : GivesNumber .wraps s.tabled (stem name) (some (s.nextName name)) := by
  have hplaces (k : Nat) (hk : IsFirstPlace s.tabled (stem name) k) : k < 4294967296 := by
    have hle := hwell.firstPlace_le hk
    unfold capacity at hroom
    omega
  obtain ⟨n, hsearch, hname⟩ := search_wraps s name hplaces
  exact ⟨some n, hsearch, congrArg some hname⟩

/-- The name for a new node is what is asked for, or a number is put to its stem. -/
private theorem gives_freeName (hwell : s.WellFormed) (hroom : s.nodes.size ≤ capacity) (name : String) :
    (Request.name name).Gives .wraps s.taken (some (s.freeName name)) := by
  rw [taken_eq_tabled hwell]
  constructor
  · intro hfree
    rw [freeName_of_not_hasName (Bool.eq_false_iff.2 hfree)]
  · intro htaken
    rw [freeName, if_pos (show s.hasName name = true from htaken)]
    exact givesNumber_nextName hwell hroom name

/-! ### Nodes -/

/-- A new node is called as the search for a name answers a request. -/
def NodeNamed (s s' : Scene α) (request : Request) (h : Handle) : Prop :=
  ∃ given, s'.name h = .ok given ∧ request.Gives .wraps s.taken (some given)

/-- The nodes of a new object are called as requests are answered, one after another: the transform, the
shape after the transform, and the generator, if there is one, after its kind. -/
def ObjectNamed (s s' : Scene α) (request : Request) (p : Primitive) (generatorStem : Option String) :
    Prop :=
  ∃ transform shape, s'.name p.transform = .ok transform ∧
    request.Gives .wraps s.taken (some transform) ∧ s'.name p.shape = .ok shape ∧
    (Request.name (transform ++ "Shape")).Gives .wraps (s.taken ∪ {transform}) (some shape) ∧
    ∀ stem ∈ generatorStem, ∃ h generator, p.generator = some h ∧ s'.name h = .ok generator ∧
      (Request.number stem).Gives .wraps (s.taken ∪ {transform} ∪ {shape}) (some generator)

/-- The node at a place has the name that it holds. -/
private theorem name_of_getElem? {i : Nat} {n : Node α} (hn : s.nodes[i]? = some n) :
    s.name (Handle.ofPlace i) = .ok n.name :=
  name_eq_ok.2 ⟨i, n, rfl, hn, rfl⟩

/-- A node that is put in under a free name is named as its request demands. -/
private theorem nodeNamed_push (hwell : s.WellFormed) (hroom : s.nodes.size ≤ capacity) (name : String)
    {parent : Option Nat} (hparent : ∀ p, parent = some p → p < s.nodes.size) (data : NodeData α) :
    NodeNamed s (s.push (s.freeName name) parent data) (.name name) (Handle.ofPlace s.nodes.size) :=
  ⟨s.freeName name, name_of_getElem? (getElem?_push_size hparent), gives_freeName hwell hroom name⟩

/-- A node that is added where there is room for it. -/
private theorem insert_named (hwell : s.WellFormed) (hroom : s.nodes.size ≤ capacity) {name : String}
    (hname : name ≠ "") {parent : Option Handle} (hparent : ∀ p ∈ parent, s.isLive p = true)
    (data : NodeData α) :
    ∃ h s', (insert name parent data).run s = (.ok h, s') ∧ NodeNamed s s' (.name name) h := by
  cases parent with
  | none => exact ⟨_, _, run_insert_root hname, nodeNamed_push hwell hroom name (by simp) data⟩
  | some p =>
    obtain ⟨i, n, rfl, hn⟩ := isLive_iff.1 (hparent p rfl)
    refine ⟨_, _, run_insert_below hname hn, nodeNamed_push hwell hroom name ?_ data⟩
    intro q hq
    cases hq
    exact (Array.getElem?_eq_some_iff.1 hn).1

section

variable {name : String} {t : Transform α} {request : Request}

/-- The scene in which the shape of a new object is named: the transform is there. -/
private theorem WellFormed.pushTransform (hwell : s.WellFormed) (hname : name ≠ "") (t : Transform α) :
    (s.push (s.freeName name) none (.transform t)).WellFormed :=
  hwell.push (hasName_freeName s name) (freeName_ne_empty s hname) (by simp) (by simp)

/-- The name of a shape is asked for after the name of its transform was taken. -/
private theorem gives_shapeName (hwell : s.WellFormed) (hroom : s.nodes.size + 1 ≤ capacity)
    (hname : name ≠ "") (t : Transform α) :
    (Request.name (s.freeName name ++ "Shape")).Gives .wraps (s.taken ∪ {s.freeName name})
      (some (s.shapeName name t)) := by
  have hwell' := hwell.pushTransform hname t
  have hgives := gives_freeName hwell' (by rwa [size_push]) (s.freeName name ++ "Shape")
  rw [taken_eq_tabled hwell', tabled_push] at hgives
  rwa [taken_eq_tabled hwell]

/-- An object with a shape has its two nodes named, one request after the other. -/
private theorem objectNamed_withShape (hwell : s.WellFormed) (hroom : s.nodes.size + 1 ≤ capacity)
    (hname : name ≠ "") (hrequest : request.Gives .wraps s.taken (some (s.freeName name)))
    (shape : NodeData α) :
    ObjectNamed s (s.withShape name t shape) request
      ⟨Handle.ofPlace s.nodes.size, Handle.ofPlace (s.nodes.size + 1), none⟩ none :=
  ⟨s.freeName name, s.shapeName name t, name_of_getElem? (getElem?_withShape_transform ..), hrequest,
    name_of_getElem? (getElem?_withShape_shape ..), gives_shapeName hwell hroom hname t, by simp⟩

/-- An object with a generator has its three nodes named, one request after the other. -/
private theorem objectNamed_withGenerated (hwell : s.WellFormed) (hroom : s.nodes.size + 2 ≤ capacity)
    (hname : name ≠ "") (hrequest : request.Gives .wraps s.taken (some (s.freeName name)))
    {generatorStem : String} (hstem : stem generatorStem = generatorStem) (data : NodeData α) :
    ObjectNamed s (s.withGenerated name t generatorStem data) request
      ⟨Handle.ofPlace s.nodes.size, Handle.ofPlace (s.nodes.size + 1),
        some (Handle.ofPlace (s.nodes.size + 2))⟩ (some generatorStem) := by
  refine ⟨s.freeName name, s.shapeName name t, name_of_getElem? (getElem?_withGenerated_transform ..),
    hrequest, name_of_getElem? (getElem?_withGenerated_shape ..),
    gives_shapeName hwell (by omega) hname t, ?_⟩
  intro other hother
  cases hother
  refine ⟨_, _, rfl, name_of_getElem? (getElem?_withGenerated_generator ..), ?_⟩
  -- the generator is named when the transform and the shape are there
  have hempty : ∀ v : Mesh α, NodeData.mesh .empty = .mesh v → v.validate = .ok () := by
    rintro v ⟨⟩
    rfl
  have hgives := givesNumber_nextName (hwell.withShape hname t hempty) (by rwa [size_withShape])
    generatorStem
  rw [hstem, tabled_withShape] at hgives
  rw [taken_eq_tabled hwell]
  exact hgives

end

/-! ### Scenes -/

variable [Scalar α]

/-- How new nodes of a scene are named.  The names of the edits are those of a machine on which results
wrap; a machine that looks at its results gives the same ones, up to the first request that it breaks
down over. -/
structure Naming (s : Scene α) : Prop where
  /-- A machine does one thing on a request. -/
  unique : ∀ o (request : Request) given? given?', request.Gives o s.taken given? →
    request.Gives o s.taken given?' → given? = given?'
  /-- It never gives a name that is taken. -/
  free : ∀ o (request : Request) given, request.Gives o s.taken (some given) → given ∉ s.taken
  /-- It gives the name that it should give exactly if its counter has room for the request. -/
  exists_isMet_iff : ∀ o (request : Request),
    (∃ given, request.Gives o s.taken (some given) ∧ request.IsMet s.taken given) ↔
      request.HasRoom o s.taken
  /-- If it looks at its results, it breaks down otherwise. -/
  breaks_iff : ∀ request : Request, request.Gives .stops s.taken none ↔ ¬request.HasRoom .stops s.taken
  /-- If it looks at its results and does not break down, it gives the name that the others give. -/
  agree : ∀ (request : Request) given, request.Gives .stops s.taken (some given) →
    request.Gives .wraps s.taken (some given)
  addTransform : ∀ name parent t, name ≠ "" → (∀ p ∈ parent, s.isLive p = true) →
    ∃ h s', (Scene.addTransform name parent t).run s = (.ok h, s') ∧ NodeNamed s s' (.name name) h
  addCameraShape : ∀ name parent, name ≠ "" → s.isLive parent = true →
    ∃ h s', (Scene.addCameraShape name parent).run s = (.ok h, s') ∧ NodeNamed s s' (.name name) h
  addSphere : ∀ name t radius, name ≠ "" →
    ∃ p s', (Scene.addSphere name t radius).run s = (.ok p, s') ∧
      ObjectNamed s s' (.name name) p (some "polySphere")
  addBox : ∀ name t d, name ≠ "" →
    ∃ p s', (Scene.addBox name t d).run s = (.ok p, s') ∧
      ObjectNamed s s' (.name name) p (some "polyCube")
  addMesh : ∀ name t m, name ≠ "" → m.validate = .ok () →
    ∃ p s', (Scene.addMesh name t m).run s = (.ok p, s') ∧ ObjectNamed s s' (.name name) p none
  addCamera : ∀ name t, name ≠ "" →
    ∃ p s', (Scene.addCamera name t).run s = (.ok p, s') ∧ ObjectNamed s s' (.name name) p none
  createBox : ∀ d, ∃ b s', (Scene.createBox d).run s = (.ok b, s') ∧
    ObjectNamed s s' (.number "pCube") ⟨b.transform, b.shape, some b.generator⟩ (some "polyCube")

/-- In a well-formed scene with room for one more object, all edits name nodes in this way. -/
theorem WellFormed.naming (hwell : s.WellFormed) (hroom : s.nodes.size + 3 ≤ capacity) : Naming s := by
  have hasked (name : String) := gives_freeName hwell (Nat.le_trans (Nat.le_add_right _ 3) hroom) name
  constructor
  case unique => exact fun o request given? given?' h h' => h.unique h'
  case free => exact fun o request given h => h.notMem
  case exists_isMet_iff => exact fun o request => Request.exists_isMet_iff
  case breaks_iff => exact fun request => Request.gives_none_iff
  case agree => exact fun request given h => h.wraps
  -- each way to add nodes is one of three patterns: a node, a shape or a generator
  case addTransform =>
    intro name parent t hname hparent
    exact insert_named hwell (by omega) hname hparent _
  case addCameraShape =>
    intro name parent hname hparent
    refine insert_named hwell (by omega) hname ?_ _
    intro p hp
    cases hp
    exact hparent
  case addSphere =>
    intro name t radius hname
    exact ⟨_, _, run_addGenerated hname _,
      objectNamed_withGenerated hwell (by omega) hname (hasked name) rfl _⟩
  case addBox =>
    intro name t d hname
    exact ⟨_, _, run_addGenerated hname _,
      objectNamed_withGenerated hwell (by omega) hname (hasked name) rfl _⟩
  case addMesh =>
    intro name t m hname hvalid
    exact ⟨_, _, run_addMesh hname hvalid,
      objectNamed_withShape hwell (by omega) hname (hasked name) _⟩
  case addCamera =>
    intro name t hname
    exact ⟨_, _, run_addCamera hname, objectNamed_withShape hwell (by omega) hname (hasked name) _⟩
  case createBox =>
    intro d
    refine ⟨_, _, run_createBox d s,
      objectNamed_withGenerated hwell (by omega) (nextName_ne_empty s _) ?_ rfl _⟩
    -- the numbered name is free, so it is given as it is asked for
    rw [freeName_of_not_hasName (hasName_nextName s "pCube"), taken_eq_tabled hwell]
    exact givesNumber_nextName hwell (by omega) "pCube"

/-! ### Boxes one after another -/

/-- The numbers of the boxes that successive calls create. -/
inductive BoxNumbers : Scene α → List (Call α) → List Int → Prop where
  | nil (s : Scene α) : BoxNumbers s [] []
  | box {s s' : Scene α} {d : Dimensions α} {b : CreatedBox} {n : Int} {calls : List (Call α)}
      {ns : List Int} (hrun : (Scene.createBox d).run s = (.ok b, s'))
      (hname : s'.name b.transform = .ok (numbered "pCube" n)) (hrest : BoxNumbers s' calls ns) :
      BoxNumbers s (.createBox d :: calls) (n :: ns)
  | other {s : Scene α} {c : Call α} {calls : List (Call α)} {ns : List Int}
      (hother : ∀ d, c ≠ .createBox d) (hrest : BoxNumbers (c.run s) calls ns) :
      BoxNumbers s (c :: calls) ns

/-- A call makes no place of the count free. -/
private theorem firstPlace_le_run {stem : String} {k k' : Nat} {c : Call α}
    (hk : IsFirstPlace s.taken stem k) (hk' : IsFirstPlace (c.run s).taken stem k') : k ≤ k' := by
  have hkeeps : Keeps (fun _ => True) s (c.run s) := Keeps.call trivial s
  exact hk'.mono hk fun i hi htaken => hi (hkeeps.taken_subset htaken)

/-- A box is called by the first place of the count that is free for it. -/
private theorem exists_createBox (hwell : s.WellFormed) (d : Dimensions α) :
    ∃ b s' k, (Scene.createBox d).run s = (.ok b, s') ∧ IsFirstPlace s.taken "pCube" k ∧
      s'.name b.transform = .ok (numbered "pCube" (counted k)) := by
  have hstem : stem "pCube" = "pCube" := rfl
  obtain ⟨k, hk, hname⟩ := nextName_spec s "pCube"
  rw [hstem] at hk hname
  refine ⟨_, _, k, run_createBox d s, by rwa [taken_eq_tabled hwell], ?_⟩
  have hnode := name_of_getElem?
    (getElem?_withGenerated_transform s (s.nextName "pCube") Transform.identity "polyCube" (.box d))
  have hgiven : s.freeName (s.nextName "pCube") = numbered "pCube" (counted k) := by
    rw [freeName_of_not_hasName (hasName_nextName s "pCube"), hname]
  exact hnode.trans (congrArg Except.ok hgiven)

/-- The boxes stand at later and later places of the count, from the first one that is free on. -/
private theorem exists_boxNumbers (hwell : s.WellFormed) (calls : List (Call α)) :
    ∃ ks : List Nat, BoxNumbers s calls (ks.map counted) ∧ ks.Pairwise (· < ·) ∧
      ∀ k, IsFirstPlace s.taken "pCube" k → ∀ i ∈ ks, k ≤ i := by
  induction calls generalizing s with
  | nil => exact ⟨[], .nil s, .nil, by simp⟩
  | cons c calls ih =>
    have hwell' := hwell.change (c.change s)
    obtain ⟨ks, hnumbers, hincreasing, hfirst⟩ := ih hwell'
    have hstem : stem "pCube" = "pCube" := rfl
    obtain ⟨k', hk', -⟩ := nextName_spec (c.run s) "pCube"
    rw [← taken_eq_tabled hwell', hstem] at hk'
    have hrest := hfirst k' hk'
    by_cases hbox : ∃ d, c = .createBox d
    · obtain ⟨d, rfl⟩ := hbox
      obtain ⟨b, s', k, hrun, hk, hname⟩ := exists_createBox hwell d
      have hafter : (Call.createBox d).run s = s' := by
        rw [Call.run, hrun]
      rw [hafter] at hnumbers hk'
      -- the place is taken from now on, so the next ones come after it
      have hlt : k < k' := by
        refine Nat.lt_of_le_of_ne (firstPlace_le_run hk (c := .createBox d) ?_) ?_
        · rwa [hafter]
        · intro heq
          exact hk'.1 ⟨_, heq ▸ hname⟩
      refine ⟨k :: ks, .box hrun hname hnumbers, ?_, ?_⟩
      · rw [List.pairwise_cons]
        exact ⟨fun i hi => Nat.lt_of_lt_of_le hlt (hrest i hi), hincreasing⟩
      · intro j hj i hi
        obtain rfl := hj.unique hk
        rcases List.mem_cons.1 hi with rfl | hi
        · exact Nat.le_refl _
        · exact Nat.le_trans (Nat.le_of_lt hlt) (hrest i hi)
    · -- another call may take names but frees none, so the first free place stays or moves on
      refine ⟨ks, .other (fun d hd => hbox ⟨d, hd⟩) hnumbers, hincreasing, ?_⟩
      intro k hk i hi
      exact Nat.le_trans (firstPlace_le_run hk hk') (hrest i hi)

/-- The numbers of the boxes increase, unless the counter has gone around between two of them. -/
private theorem boxNumbers_increase (hwell : s.WellFormed) (calls : List (Call α)) :
    ∃ ns, BoxNumbers s calls ns ∧
      (ns.Pairwise (· < ·) ↔ ns.Pairwise fun n m => 0 < n → 0 < m) := by
  obtain ⟨ks, hnumbers, hincreasing, -⟩ := exists_boxNumbers hwell calls
  refine ⟨_, hnumbers, ?_⟩
  rw [List.pairwise_map, List.pairwise_map]
  constructor
  · intro h
    exact (hincreasing.and h).imp fun ⟨hlt, hnumber⟩ => (counted_lt_iff hlt).1 hnumber
  · intro h
    exact (hincreasing.and h).imp fun ⟨hlt, hpositive⟩ => (counted_lt_iff hlt).2 hpositive

/-! ### The scenes that arise -/

/-- In every scene that arises, while there is room for an object, a new node gets the name that is asked
for or the least number exactly if the counter of the search has that number; if it has none, one machine
breaks down, and another one goes around.  Over any calls the numbers of the boxes that are created
increase exactly until the counter has gone around.  This goes for the boxes of conversions as well, as
those are made of calls. -/
theorem naming_ofCalls (calls : List (Call α)) (h : (ofCalls calls).size + 3 ≤ capacity) :
    Naming (ofCalls calls) ∧ ∃ ns, BoxNumbers empty calls ns ∧
      (ns.Pairwise (· < ·) ↔ ns.Pairwise fun n m => 0 < n → 0 < m) := by
  have hwell := wellFormed_ofCalls calls
  refine ⟨hwell.naming ?_, boxNumbers_increase WellFormed.empty calls⟩
  rwa [size, hwell.order, List.length_range] at h

/-- Two transforms of one name, and a box. -/
def cratesAndBox : List (Call Single) :=
  [.addTransform "crate7" none .identity, .addTransform "crate7" none .identity, .createBox (.cube 1)]

/-- A scene with crates and a box: a further crate gets the least number that is free, with overflow
checks and without them. -/
theorem naming_cratesAndBox : (ofCalls cratesAndBox).size + 3 ≤ capacity ∧
    ∀ o, ∃ given, (Request.name "crate7").Gives o (ofCalls cratesAndBox).taken (some given) ∧
      (Request.name "crate7").IsMet (ofCalls cratesAndBox).taken given := by
  have hroom : (ofCalls cratesAndBox).size + 3 ≤ capacity := by decide +kernel
  obtain ⟨hnaming, -⟩ := naming_ofCalls cratesAndBox hroom
  have htwo : (ofCalls cratesAndBox).hasName "crate2" = false := by decide +kernel
  refine ⟨hroom, fun o => (hnaming.exists_isMet_iff o _).2 fun _ => ⟨2, by decide, ?_, ?_⟩⟩
  · cases o <;> decide
  · rw [taken_eq_tabled (wellFormed_ofCalls _)]
    exact Bool.eq_false_iff.1 htwo

/-! ### A scene without numbers -/

/-- A transform under a free name is put in under this name. -/
private theorem run_addTransform_free {name : String} (hname : name ≠ "") (hfree : s.hasName name = false)
    (t : Transform α) : (Call.addTransform name none t).run s = s.push name none (.transform t) := by
  rw [Call.run, Scene.addTransform, run_insert_root hname, freeName_of_not_hasName hfree]

/-- Calls that add a transform, and one for each of the first numbers that can be put to its name. -/
def crowd (n : Nat) : List (Call Single) :=
  .addTransform "a" none .identity ::
    (List.range n).map fun k => .addTransform (numbered "a" (k + 1 : Nat)) none .identity

/-- The names in a crowd. -/
def crowdNames (n : Nat) : Set String :=
  {name | name = "a" ∨ ∃ m : Nat, 0 < m ∧ m ≤ n ∧ name = numbered "a" m}

/-- A stem with a number is never the stem itself. -/
private theorem numbered_ne_self (stem : String) (n : Int) : numbered stem n ≠ stem := by
  intro h
  have hlist : stem.toList ++ (toString n).toList = stem.toList := by
    rw [← String.toList_append]
    exact congrArg String.toList h
  have hnone := String.toList_eq_nil_iff.1 (List.append_right_eq_self.1 hlist)
  exact numbered_ne_empty "" n (by rw [numbered, hnone]; rfl)

/-- The table after a crowd of transforms, each under a name with the next number. -/
private theorem tabled_crowd (n : Nat) : (ofCalls (crowd n)).tabled = crowdNames n ∧
    (ofCalls (crowd n)).size = n + 1 := by
  induction n with
  | zero =>
    have hfirst : ofCalls (crowd 0) = empty.push "a" none (.transform .identity) :=
      run_addTransform_free (by decide) rfl _
    rw [hfirst, tabled_push]
    refine ⟨Set.ext fun name => ?_, rfl⟩
    simp [tabled, crowdNames, hasName, empty]
  | succ n ih =>
    obtain ⟨hnames, hsize⟩ := ih
    have hlast : crowd (n + 1) = crowd n ++ [.addTransform (numbered "a" (n + 1 : Nat)) none .identity] := by
      rw [crowd, List.range_succ, List.map_append]
      rfl
    -- the next number is not put to the name yet
    have hfree : (ofCalls (crowd n)).hasName (numbered "a" (n + 1 : Nat)) = false := by
      apply Bool.eq_false_iff.2
      intro htaken
      have hmem : numbered "a" (n + 1 : Nat) ∈ crowdNames n := by
        rw [← hnames]
        exact htaken
      rcases hmem with heq | ⟨m, -, hle, heq⟩
      · exact numbered_ne_self _ _ heq
      · have hm := numbered_injective heq
        omega
    have hnext : ofCalls (crowd (n + 1)) =
        (ofCalls (crowd n)).push (numbered "a" (n + 1 : Nat)) none (.transform .identity) := by
      rw [hlast, ofCalls, List.foldl_append]
      exact run_addTransform_free (numbered_ne_empty _ _) hfree _
    rw [hnext, tabled_push, hnames]
    constructor
    · ext name
      simp only [crowdNames, Set.mem_union, Set.mem_ofPred_eq, Set.mem_singleton_iff]
      constructor
      · rintro ((h | ⟨m, hpos, hle, h⟩) | h)
        · exact .inl h
        · exact .inr ⟨m, hpos, by omega, h⟩
        · exact .inr ⟨n + 1, by omega, Nat.le_refl _, h⟩
      · rintro (h | ⟨m, hpos, hle, h⟩)
        · exact .inl (.inl h)
        · by_cases hm : m = n + 1
          · subst hm
            exact .inr h
          · exact .inl (.inr ⟨m, hpos, by omega, h⟩)
    · rw [size, order_push, List.length_append, ← size, hsize]
      rfl

/-- In a crowd with all numbers of the counter, neither machine calls one more node of that name as it
should be called: the one that looks at its results breaks down, and the other one gives the least number
of the counter. -/
theorem not_isMet_crowd : (ofCalls (crowd 2147483647)).size + 3 ≤ capacity ∧
    (∀ o, ¬∃ given, (Request.name "a").Gives o (ofCalls (crowd 2147483647)).taken (some given) ∧
      (Request.name "a").IsMet (ofCalls (crowd 2147483647)).taken given) ∧
    (Request.name "a").Gives .stops (ofCalls (crowd 2147483647)).taken none ∧
    (Request.name "a").Gives .wraps (ofCalls (crowd 2147483647)).taken (some "a-2147483648") := by
  obtain ⟨hnames, hsize⟩ := tabled_crowd 2147483647
  rw [← taken_eq_tabled (wellFormed_ofCalls _)] at hnames
  rw [hnames, hsize]
  have hstem : stem "a" = "a" := rfl
  have htaken : "a" ∈ crowdNames 2147483647 := .inl rfl
  -- every positive number that the counter reaches is taken
  have hnone (o : Overflow) : ¬(Request.name "a").HasRoom o (crowdNames 2147483647) := by
    intro hroom
    obtain ⟨n, hpos, hle, hfree⟩ := hroom htaken
    have hlast : lastNumber o ≤ 2147483647 := lastNumber_le o
    exact hfree (.inr ⟨n, hpos, Nat.le_trans hle hlast, rfl⟩)
  refine ⟨by decide, fun o h => hnone o (Request.exists_isMet_iff.1 h),
    Request.gives_none_iff.2 (hnone .stops), fun hfree => absurd htaken hfree, fun _ => ?_⟩
  -- the counter comes to its least number when all names before are taken
  have hfirst : IsFirstPlace (crowdNames 2147483647) "a" 2147483647 := by
    have hleast : counted 2147483647 = -2147483648 := counted_eq_sub (by decide) (by decide)
    refine ⟨?_, fun k hk => ?_⟩
    · rintro (heq | ⟨m, -, -, heq⟩)
      · exact numbered_ne_self _ _ heq
      · have hm := numbered_injective heq
        omega
    · by_contra hlt
      refine hk (.inr ⟨k + 1, by omega, by omega, ?_⟩)
      rw [counted_eq (by omega)]
      rfl
  refine ⟨_, hfirst.search (by decide) (.inl rfl), ?_⟩
  rw [hstem, Option.map_some, toInt_numberAt (by decide), counted_eq_sub (by decide) (by decide)]
  rfl

end Scenery.Scene
