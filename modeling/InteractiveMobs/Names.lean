/-!
# Names

Keys of messages and names of warps are texts of their own kinds, listed in the order of
their characters. `Alignment.pad` lays a name out in a field of a given width.
-/

namespace InteractiveMobs
set_option autoImplicit false

/-- Comparing images under a map keeps the laws of an order. -/
theorem transOrd_onto {α β : Type} [Ord β] [Std.TransOrd β] (f : α → β) :
    Std.TransCmp fun a b : α => compare (f a) (f b) where
  eq_swap := fun {a b} => Std.OrientedOrd.eq_swap (a := f a) (b := f b)
  isLE_trans := fun {a b c} => Std.TransOrd.isLE_trans (a := f a) (b := f b) (c := f c)

/-- Comparing images under an injection tells different elements apart. -/
theorem lawfulEqOrd_onto {α β : Type} [Ord β] [Std.LawfulEqOrd β] (f : α → β)
    (injective : ∀ {a b}, f a = f b → a = b) :
    Std.LawfulEqCmp fun a b : α => compare (f a) (f b) where
  compare_self := fun {a} => Std.ReflOrd.compare_self (a := f a)
  eq_of_compare h := injective (Std.LawfulEqCmp.eq_of_compare h)

/-- The key of a message in a catalog, such as `warp-success`. -/
structure MessageKey where
  text : String
deriving DecidableEq, Repr, Inhabited

namespace MessageKey

instance : Ord MessageKey := ⟨fun a b => compare a.text b.text⟩

instance : Std.TransOrd MessageKey := transOrd_onto MessageKey.text

instance : Std.LawfulEqOrd MessageKey :=
  lawfulEqOrd_onto MessageKey.text fun {a b} h => by cases a; cases b; exact congrArg mk h

instance : ToString MessageKey := ⟨text⟩

end MessageKey

/-- The name of a warp, a place to travel to. -/
structure WarpName where
  text : String
deriving DecidableEq, Repr, Inhabited

namespace WarpName

instance : Ord WarpName := ⟨fun a b => compare a.text b.text⟩

instance : Std.TransOrd WarpName := transOrd_onto WarpName.text

instance : Std.LawfulEqOrd WarpName :=
  lawfulEqOrd_onto WarpName.text fun {a b} h => by cases a; cases b; exact congrArg mk h

instance : ToString WarpName := ⟨text⟩

end WarpName

/-- The side of its field a text keeps to. -/
inductive Alignment where
  | left
  | right
  | center
deriving DecidableEq, Repr

/-- The fill on the left when `space` characters of a field are free; a centered text leaves an
odd one to the right. -/
def Alignment.fillBefore (alignment : Alignment) (space : Nat) : Nat :=
  match alignment with
  | .left => 0
  | .right => space
  | .center => space / 2

/-- Text cut to `limit` characters, if there is a limit, and filled up to `width`. -/
def Alignment.pad (alignment : Alignment) (fill : Char) (width : Nat) (limit : Option Nat)
    (text : String) : String :=
  let shown := match limit with
    | some n => text.toList.take n
    | none => text.toList
  let space := width - shown.length
  let before := alignment.fillBefore space
  String.ofList (List.replicate before fill ++ shown ++ List.replicate (space - before) fill)

end InteractiveMobs
