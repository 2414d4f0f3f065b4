import AccessPolicy.Yaml.Node

/-!
# Merging

A map under the key `<<` lends its entries to the map that holds the key: they go before the map's
own, so that the own ones win. A list of maps lends those of its last map first. What is lent to a
lender comes first, and a map that lends to itself lends what it has by then.

`Graph.merged` carries out the merges of a map. They leave the map and all that lend to it without
a key `<<`, and with texts for the keys written `=`: a key is no default entry once it is in use.
-/

namespace AccessPolicy.Yaml.Graph

/-- Makes texts of the keys written `=`. -/
def withTextKeys (g : Graph) (es : List (Nat × Nat)) : Graph :=
  es.foldl (fun g e =>
    if (g.node e.1).kind == .default then g.put e.1 ((g.node e.1).withKind .text) else g) g

/-- What the first key `<<` of some entries is merged with, and the entries without it. -/
def takeMerge? (g : Graph) : List (Nat × Nat) → Option (Nat × List (Nat × Nat))
  | [] => none
  | e :: es =>
    if (g.node e.1).kind == .merge then some (e.2, es)
    else (g.takeMerge? es).map fun (lender, rest) => (lender, e :: rest)

/-- A map with other entries. -/
def withEntries (g : Graph) (i : Nat) (es : List (Nat × Nat)) : Graph :=
  g.put i (.map (g.node i).kind es)

/-- Carries out the merges of a map, after each other and one inside the other at most `n` of them.
`lent` is what was lent to the map so far. `none` where something else than maps is merged. -/
def merged : Nat → Nat → List (Nat × Nat) → Graph → Option Graph
  | 0, _, _, _ => none
  | n + 1, i, lent, g => match g.takeMerge? (g.node i).entries with
    | none =>
      let es := lent ++ (g.node i).entries
      some ((g.withEntries i es).withTextKeys es)
    | some (lender, rest) => do
      let g := g.withEntries i rest
      match g.node lender with
      | .map _ _ =>
        let g ← merged n lender [] g
        merged n i (lent ++ (g.node lender).entries) g
      | .list _ items =>
        let (g, maps) ← items.foldlM (fun (g, maps) j => match g.node j with
          | .map _ _ => do
            let g ← merged n j [] g
            return (g, (g.node j).entries :: maps)
          | _ => none) (g, [])
        merged n i (lent ++ maps.flatten) g
      | .scalar _ _ => none

end AccessPolicy.Yaml.Graph
