/-!
Sorting that keeps equal elements in their order.
-/
namespace PageWiring

/-- Puts an element before the first one that it does not exceed. -/
def insertSorted (le : α → α → Bool) (a : α) : List α → List α
  | [] => [a]
  | b :: bs => if le a b then a :: b :: bs else b :: insertSorted le a bs

def sortBy (le : α → α → Bool) : List α → List α
  | [] => []
  | a :: as => insertSorted le a (sortBy le as)

end PageWiring
