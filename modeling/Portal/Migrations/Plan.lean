import Portal.Migrations.Catalog
/-! The order migrations apply in. Migrations form a graph by the migrations each needs
first. A leaf is a migration that no later migration of its own application needs. The
plan for a migration lists everything it needs, depth first, each migration after all it
needs: of a migration's needs, the greatest key is followed first. -/
namespace Portal
namespace Migrations

def keyLess (a b : Key) : Bool := a.1 < b.1 || (a.1 == b.1 && a.2 < b.2)

def sortKeys (ks : List Key) : List Key := ks.mergeSort fun a b => !keyLess b a

def parentsOf (k : Key) : List Key := sortKeys (((find? k).map (·.parents)).getD [])

def childrenOf (k : Key) : List Key := (catalog.filter fun m => m.parents.contains k).map (·.key)

def leaves (app : Option String) : List Key :=
  sortKeys ((catalog.filter fun m =>
    (childrenOf m.key).all (·.1 != m.app) && (app.map (· == m.app)).getD true).map (·.key))

def roots (app : String) : List Key :=
  sortKeys ((catalog.filter fun m => m.app == app && m.parents.all (·.1 != app)).map (·.key))

def walk : Nat → List (Key × Bool) → List Key → List Key
  | 0, _, done => done
  | _, [], done => done
  | fuel + 1, (k, expanded) :: stack, done =>
    if done.contains k then walk fuel stack done
    else if expanded then walk fuel stack (done ++ [k])
    else walk fuel ((parentsOf k).reverse.map (·, false) ++ (k, true) :: stack) done

def forwardsPlan (k : Key) : List Key :=
  let n := catalog.length + 1
  walk (4 * n * n) [(k, false)] []

def planFor (targets : List Key) : List Key :=
  targets.foldl (fun acc t => acc ++ (forwardsPlan t).filter (!acc.contains ·)) []

def byStart (app pre : String) : List Migration :=
  catalog.filter fun m => m.app == app && m.name.startsWith pre

end Migrations
end Portal
