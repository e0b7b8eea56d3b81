import Scenery.Scene.World

/-!
# Editing scenes

The ways in which a scene changes.  An edit has a result or fails, and in both cases leaves a scene:
what it changed before it failed stays changed.

A new node gets the name that is asked for, or if that is taken the same name with a number: see
`Scene.nextName`.
-/

namespace Scenery

/-- A change of a scene with a result or a failure. -/
abbrev Edit (α β : Type) := ExceptT Failure (StateM (Scene α)) β

/-- The space in which a placement is given. -/
inductive Space where
  | world
  /-- The space of the parent. -/
  | parent
  deriving DecidableEq, Repr

/-- The nodes of a shape with its transform and, if it has one, its generator. -/
structure Primitive where
  transform : Handle
  shape : Handle
  generator : Option Handle
  deriving DecidableEq, Repr

/-- The nodes of a new box. -/
structure CreatedBox where
  transform : Handle
  shape : Handle
  generator : Handle
  deriving DecidableEq, Repr

namespace Scene

variable {α : Type}

/-! ### Names -/

/-- A name without the digits at its end; a name of digits alone keeps them. -/
def stem (name : String) : String :=
  let kept := (name.toList.reverse.dropWhile Char.isDigit).reverse
  if kept.isEmpty then name else String.ofList kept

/-- A name with a number. -/
def numbered (stem : String) (n : Int) : String := stem ++ toString n

/-- The number at place `k` of the count 1, 2, …, which is kept in a counter of 32 bits: behind the
largest number comes the least one.  (A machine that checks its results breaks down there instead.)
A scene has room for fewer nodes than the counter has numbers, so no search comes to the places behind
the last number, where the count goes on without a limit. -/
def counted (k : Nat) : Int :=
  if k < 4294967296 then (Int32.ofNat (k + 1)).toInt else k

/-- The stem of a name with the first number of the count that makes it free.  Among one more number
than there are names, one is free. -/
def nextName (s : Scene α) (name : String) : String :=
  let candidates := (List.range (s.names.length + 1)).map fun k => numbered (stem name) (counted k)
  (candidates.find? (!s.hasName ·)).getD (stem name)

/-- The name that a new node gets when `name` is asked for. -/
def freeName (s : Scene α) (name : String) : String :=
  if s.hasName name then s.nextName name else name

/-! ### Single nodes -/

/-- Gives the result of a query of the current scene. -/
def query {β : Type} (q : Scene α → Except Failure β) : Edit α β := do
  liftExcept (q (← get))
where
  /-- A result or a failure as an edit that changes nothing. -/
  liftExcept {β : Type} : Except Failure β → Edit α β
    | .ok b => pure b
    | .error e => throw e

/-- The place of the node at a handle. -/
def placeOf (h : Handle) : Edit α Nat := do
  let (i, _) ← query (·.entry h)
  return i

/-- The scene with another node at a place. -/
def modifyNode (s : Scene α) (i : Nat) (f : Node α → Node α) : Scene α :=
  { s with nodes := s.nodes.modify i f }

/-- The scene with a new node below the one at the parent's place, or below none. -/
def push (s : Scene α) (name : String) (parent : Option Nat) (data : NodeData α) : Scene α :=
  let i := s.nodes.size
  let added := { s with
    nodes := s.nodes.push ⟨name, parent, [], none, data⟩
    order := s.order ++ [i]
    names := (name, i) :: s.names }
  match parent with
  | none => added
  | some p => added.modifyNode p fun n => { n with children := n.children ++ [i] }

/-- Adds a node under a parent, or without one. -/
def insert (name : String) (parent : Option Handle) (data : NodeData α) : Edit α Handle := do
  if name.isEmpty then throw (.resolution .emptyName)
  let parent ← match parent with
    | none => pure none
    | some h => some <$> placeOf h
  let s ← get
  set (s.push (s.freeName name) parent data)
  return Handle.ofPlace s.nodes.size

/-- Adds a transform. -/
def addTransform (name : String) (parent : Option Handle) (t : Transform α) : Edit α Handle :=
  insert name parent (.transform t)

/-- Adds a camera under any node. -/
def addCameraShape (name : String) (parent : Handle) : Edit α Handle :=
  insert name (some parent) .camera

/-- Cuts the connection of a generator with the mesh that it feeds. -/
def disconnectOutput (h : Handle) : Edit α Unit := do
  let i ← placeOf h
  modify fun s => s.modifyNode i fun n => { n with output := none }

/-- The scene in which the node at place `i` is no longer below the one at place `p`. -/
def detach (s : Scene α) (i p : Nat) : Scene α :=
  (s.modifyNode i fun n => { n with parent := none }).modifyNode p fun n =>
    { n with children := n.children.filter (· ≠ i) }

/-- Takes a node away from its parent. -/
def unparent (h : Handle) : Edit α Unit := do
  let (i, n) ← query (·.entry h)
  match n.parent with
  | none => return
  | some p => modify (·.detach i p)

/-- Makes the shape at a handle the one that a generator feeds. -/
def connectOutput (generator shape : Handle) : Edit α Unit := do
  let i ← placeOf generator
  let j ← placeOf shape
  modify fun s => s.modifyNode i fun n => { n with output := some j }

/-! ### Primitives -/

/-- Adds a shape under the transform at a handle, named after it. -/
def addShape (transform : Handle) (data : NodeData α) : Edit α Handle := do
  let name ← query (·.name transform)
  insert (name ++ "Shape") (some transform) data

/-- Adds a transform, an empty mesh below it and a generator that feeds the mesh. -/
def addGenerated (name : String) (t : Transform α) (generatorName : String) (data : NodeData α) :
    Edit α Primitive := do
  let transform ← addTransform name none t
  let shape ← addShape transform (.mesh .empty)
  let generator ← insert ((← get).nextName generatorName) none data
  connectOutput generator shape
  return ⟨transform, shape, some generator⟩

/-- Adds a sphere. -/
def addSphere (name : String) (t : Transform α) (radius : α) : Edit α Primitive :=
  addGenerated name t "polySphere" (.sphere radius)

/-- Adds a box. -/
def addBox (name : String) (t : Transform α) (d : Dimensions α) : Edit α Primitive :=
  addGenerated name t "polyCube" (.box d)

/-- Adds a mesh under a transform of its own. -/
def addMesh (name : String) (t : Transform α) (m : Mesh α) : Edit α Primitive := do
  match m.validate with
  | .error e => throw (.geometry (.mesh e))
  | .ok () =>
    let transform ← addTransform name none t
    let shape ← addShape transform (.mesh m)
    return ⟨transform, shape, none⟩

/-- Adds a camera under a transform of its own. -/
def addCamera (name : String) (t : Transform α) : Edit α Primitive := do
  let transform ← addTransform name none t
  let shape ← addShape transform .camera
  return ⟨transform, shape, none⟩

/-- Adds a box at the origin under a numbered name. -/
def createBox [Scalar α] (d : Dimensions α) : Edit α CreatedBox := do
  let name := (← get).nextName "pCube"
  let p ← addBox name Transform.identity d
  match p.generator with
  | some generator => return ⟨p.transform, p.shape, generator⟩
  | none => throw (.resolution (.node name .noGenerator))

/-! ### Selection and file name -/

/-- Selects some nodes, in this order; if one of them is not there, the selection stays. -/
def setSelection (hs : List Handle) : Edit α Unit := do
  let places ← hs.mapM placeOf
  modify fun s => { s with selected := places }

/-- Selects one node. -/
def select (h : Handle) : Edit α Unit := setSelection [h]

/-- Selects nothing. -/
def clearSelection : Edit α Unit :=
  modify fun s => { s with selected := [] }

/-- Names the file of the scene. -/
def setFileName (name : Option String) : Edit α Unit :=
  modify fun s => { s with fileName := name }

/-! ### Placement -/

/-- Changes the transform at a handle. -/
def modifyTransform (h : Handle) (f : Transform α → Transform α) : Edit α Unit := do
  let i ← placeOf h
  let t ← query (·.transform h)
  modify fun s => s.modifyNode i fun n => { n with data := .transform (f t) }

/-- The point in a node's parent space that lies at a point of the given space. -/
def localPoint [Scalar α] (h : Handle) (p : Vec3 α) : Space → Edit α (Vec3 α)
  | .parent => return p
  | .world => do
    let matrix ← query (·.parentMatrix h)
    match matrix.inverse? with
    | some inverse => return inverse.applyPoint p
    | none =>
      let name ← query (·.name h)
      throw (.resolution (.node name .singularParent))

/-- The Euler angles in a node's parent space of a rotation that is given in a space. -/
def localAngles [Scalar α] (h : Handle) (angles : Vec3 α) : Space → Edit α (Vec3 α)
  | .parent => return angles
  | .world => do
    let matrix ← query (·.parentMatrix h)
    let parent := matrix.linear.closestRotation
    return Transform.anglesOf (parent.transpose * Transform.rotationOf angles)

/-- Moves a transform to a point of the given space. -/
def setPosition [Scalar α] (h : Handle) (p : Vec3 α) (space : Space) : Edit α Unit := do
  let position ← localPoint h p space
  modifyTransform h fun t => { t with position }

/-- Turns a transform to Euler angles, in degrees, of the given space. -/
def setRotation [Scalar α] (h : Handle) (angles : Vec3 α) (space : Space) : Edit α Unit := do
  let rotation ← localAngles h angles space
  modifyTransform h fun t => { t with rotation }

end Scene

end Scenery
