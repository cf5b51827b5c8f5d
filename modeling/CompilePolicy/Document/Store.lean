import CompilePolicy.Document.Value

/-!
# Containers by number

While a document is read, its containers have numbers, and a container names the
ones in it by theirs. So several containers can hold the same one, and a
container can hold itself.

The value of a part is found by putting in the place of each number what it
stands for. A container that is reached inside itself is not put in again: it is
a knot, and the place inside leads back to it. A container that leads back to
nothing around it is the same value wherever it stands, so it is unfolded only
once.
-/

namespace CompilePolicy.Document

/-- What a container holds: a value that is no container, or a container by its
number. -/
inductive Part where
  | plain (value : Value)
  | container (number : Nat)

/-- A container of parts. -/
inductive Container where
  | list (items : List Part)
  | pair (first second : Part)
  | set (members : List Value)
  | map (entries : List (Value × Part))

/-- The containers by number. -/
abbrev Store := Array Container

/-- The shape of a container, as it shows inside itself. A set holds no containers
and is never reached inside itself. -/
def Container.shape : Container → Shape
  | .list _ => .list
  | .pair _ _ => .pair
  | .set _ => .list
  | .map _ => .map

/-- A value with the containers around it that it leads back to, and the knots that
are it or lie in it. -/
structure Unfolded where
  value : Value
  outward : List Nat := []
  knots : List Nat := []

/-- What is known of the containers that lead back to nothing around them. -/
abbrev Known := Array (Option Unfolded)

/-- A container of unfolded parts. -/
def Unfolded.around (make : List Value → Value) (parts : List Unfolded) : Unfolded where
  value := make (parts.map (·.value))
  outward := parts.flatMap (·.outward)
  knots := parts.flatMap (·.knots)

/-- The value of a container, where its parts have values. -/
def unfoldContainer (part : Part → StateM Known Unfolded) :
    Container → StateM Known Unfolded
  | .list items => return .around .list (← items.mapM part)
  | .pair first second => do
    let one ← part first
    let other ← part second
    return .around (fun _ => .pair one.value other.value) [one, other]
  | .set members => return { value := .set members }
  | .map entries =>
    return .around (fun values => .map ((entries.map (·.1)).zip values))
      (← entries.mapM fun entry => part entry.2)

/-- A container that was unfolded. It is a knot if it is reached inside itself: if
something in it leads back to it or to a container around it, or is a knot with its
number. -/
def Unfolded.close (number : Nat) (body : Unfolded) : Unfolded :=
  if body.outward.isEmpty && !body.knots.contains number then body
  else
    { value := .knot number body.value
      outward := (body.outward.filter (· != number)).eraseDups
      knots := (number :: body.knots).eraseDups }

/-- The value of a part inside the containers `within`. No container is unfolded inside
itself, so the number of containers bounds the depth. -/
def unfoldPart (store : Store) : Nat → List Nat → Part → StateM Known Unfolded
  | _, _, .plain value => return { value }
  | 0, _, .container _ => return { value := .null }
  | bound + 1, within, .container number => do
    match store[number]?, ((← get)[number]?).join with
    | none, _ => return { value := .null }
    | _, some unfolded => return unfolded
    | some container, none =>
      if within.contains number then
        return { value := .again number container.shape, outward := [number] }
      else
        let body ← unfoldContainer (unfoldPart store bound (number :: within)) container
        let closed := body.close number
        if closed.outward.isEmpty then
          modify fun known => known.setIfInBounds number (some closed)
        return closed

/-- The value of a part. -/
def Store.value (store : Store) (part : Part) : Value :=
  let unfolding := unfoldPart store (store.size + 1) [] part
  (unfolding.run (Array.replicate store.size none)).1.value

example : Store.value #[.list [.container 0, .plain .null]] (.container 0) =
    .knot 0 (.list [.again 0 .list, .null]) := by
  rfl

end CompilePolicy.Document
