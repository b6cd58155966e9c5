
-- Sets of texts.
namespace Entitlement

structure TextSet where
  items : List String
  distinct : items.Nodup

namespace TextSet

def empty : TextSet := ⟨[], .nil⟩

def contains (set : TextSet) (text : String) : Bool := set.items.contains text

def insert (set : TextSet) (text : String) : TextSet :=
  if h : text ∈ set.items then set else ⟨text :: set.items, List.nodup_cons.2 ⟨h, set.distinct⟩⟩

def ofList (texts : List String) : TextSet := texts.foldl insert empty

def size (set : TextSet) : Nat := set.items.length

def isEmpty (set : TextSet) : Bool := set.items.isEmpty

end TextSet
end Entitlement
