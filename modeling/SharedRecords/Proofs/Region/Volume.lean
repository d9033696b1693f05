import SharedRecords.Region.Volume

/-!
Files come, stay and go. A node put where there was none is found on the way that led there, and every way
that led to a node still does. Without a node that is no folder, the way to it comes to nothing and every
other way leads where it did.
-/

namespace SharedRecords.Region

namespace Place

def key? : Place → Option String
  | found key _ => some key
  | vacant key => some key
  | missing | obstructed => none

end Place

namespace Volume

variable {volume : Volume} {trail names : List String} {key name : String} {node held : Node}

/-- Where one name leads from a folder, whatever the volume holds. -/
def onward? (trail : List String) (name : String) : Option (List String) :=
  if !Text.Path.isStep name then some trail
  else if name = ".." then some (trail.drop 1)
  else if isName name then some (name :: trail)
  else none

theorem walk_folder {onward : List String} (folder : volume.node? trail = some .folder)
    (leads : onward? trail name = some onward) : volume.walk trail (name :: names) = volume.walk onward names := by
  unfold onward? at leads
  rw [walk, folder]
  dsimp only
  by_cases stays : (!Text.Path.isStep name) = true
  · rw [if_pos stays] at leads ⊢
    rw [Option.some.inj leads]
  · rw [if_neg stays] at leads ⊢
    by_cases up : name = ".."
    · rw [if_pos up] at leads ⊢
      rw [Option.some.inj leads]
    · rw [if_neg up] at leads ⊢
      by_cases down : isName name = true
      · rw [if_pos down] at leads ⊢
        rw [Option.some.inj leads]
      · rw [if_neg down] at leads
        contradiction

theorem folder_of_walk (arrived : (volume.walk trail (name :: names)).key? = some key) :
    volume.node? trail = some .folder ∧ ∃ onward, onward? trail name = some onward := by
  rw [walk] at arrived
  cases here : volume.node? trail with
  | none =>
    rw [here] at arrived
    contradiction
  | some node =>
    rw [here] at arrived
    cases node with
    | file | sink => contradiction
    | folder =>
      refine ⟨rfl, ?_⟩
      unfold onward?
      dsimp only at arrived
      by_cases stays : (!Text.Path.isStep name) = true
      · exact ⟨trail, if_pos stays⟩
      · rw [if_neg stays] at arrived ⊢
        by_cases up : name = ".."
        · exact ⟨trail.drop 1, if_pos up⟩
        · rw [if_neg up] at arrived ⊢
          by_cases down : isName name = true
          · exact ⟨name :: trail, if_pos down⟩
          · rw [if_neg down] at arrived
            contradiction

theorem find?_of_walk (found : volume.walk trail names = .found key held) (other : held ≠ .folder) :
    volume.nodes.find? key = some held := by
  induction names generalizing trail with
  | nil =>
    unfold walk at found
    cases here : volume.node? trail with
    | none =>
      rw [here] at found
      contradiction
    | some node =>
      rw [here] at found
      obtain ⟨rfl, rfl⟩ := Place.found.inj found
      unfold node? at here
      by_cases root : trail.isEmpty = true
      · rw [if_pos root] at here
        exact absurd (Option.some.inj here).symm other
      · rw [if_neg root] at here
        exact here
  | cons name rest ih =>
    obtain ⟨folder, onward, leads⟩ := folder_of_walk (congrArg Place.key? found)
    rw [walk_folder folder leads] at found
    exact ih found

theorem find?_of_vacant (vacant : volume.walk trail names = .vacant key) :
    volume.nodes.find? key = none := by
  induction names generalizing trail with
  | nil =>
    unfold walk at vacant
    cases here : volume.node? trail with
    | some node =>
      rw [here] at vacant
      contradiction
    | none =>
      rw [here] at vacant
      rw [← Place.vacant.inj vacant]
      unfold node? at here
      by_cases root : trail.isEmpty = true
      · rw [if_pos root] at here
        contradiction
      · rw [if_neg root] at here
        exact here
  | cons name rest ih =>
    obtain ⟨folder, onward, leads⟩ := folder_of_walk (congrArg Place.key? vacant)
    rw [walk_folder folder leads] at vacant
    exact ih vacant

theorem node?_put_of_some (fresh : volume.nodes.find? key = none) (node : Node)
    (found : volume.node? trail = some held) : (volume.put key node).node? trail = some held := by
  unfold node? at found ⊢
  by_cases root : trail.isEmpty = true
  · rw [if_pos root] at found ⊢
    exact found
  · rw [if_neg root] at found ⊢
    have other : Volume.key trail ≠ key := by
      intro same
      rw [same, fresh] at found
      contradiction
    unfold put
    rw [KeyMap.find?_insert, if_neg other]
    exact found

theorem walk_put_of_found {old : String} (fresh : volume.nodes.find? key = none) (node : Node)
    (found : volume.walk trail names = .found old held) :
    (volume.put key node).walk trail names = .found old held := by
  induction names generalizing trail with
  | nil =>
    unfold walk at found ⊢
    cases here : volume.node? trail with
    | none =>
      rw [here] at found
      contradiction
    | some _ =>
      rw [here] at found
      rw [node?_put_of_some fresh node here]
      exact found
  | cons name rest ih =>
    obtain ⟨folder, onward, leads⟩ := folder_of_walk (congrArg Place.key? found)
    rw [walk_folder folder leads] at found
    rw [walk_folder (node?_put_of_some fresh node folder) leads]
    exact ih found

theorem walk_put_of_vacant (node : Node) (vacant : volume.walk trail names = .vacant key) :
    (volume.put key node).walk trail names = .found key node := by
  -- the induction walks through folders that were there before, and a new node hides none of them
  have fresh := find?_of_vacant vacant
  induction names generalizing trail with
  | nil =>
    unfold walk at vacant ⊢
    cases here : volume.node? trail with
    | some _ =>
      rw [here] at vacant
      contradiction
    | none =>
      rw [here] at vacant
      have same := Place.vacant.inj vacant
      have found : (volume.put key node).node? trail = some node := by
        unfold node? at here ⊢
        by_cases root : trail.isEmpty = true
        · rw [if_pos root] at here
          contradiction
        · rw [if_neg root]
          unfold put
          rw [KeyMap.find?_insert, if_pos same]
      rw [found, same]
  | cons name rest ih =>
    obtain ⟨folder, onward, leads⟩ := folder_of_walk (congrArg Place.key? vacant)
    rw [walk_folder folder leads] at vacant
    rw [walk_folder (node?_put_of_some fresh node folder) leads]
    exact ih vacant

theorem node?_remove_of_ne (apart : Volume.key trail ≠ key) :
    (volume.remove key).node? trail = volume.node? trail := by
  unfold node? remove
  rw [KeyMap.find?_erase, if_neg apart]

theorem node?_remove_of_folder (unlike : volume.nodes.find? key ≠ some .folder)
    (folder : volume.node? trail = some .folder) : (volume.remove key).node? trail = some .folder := by
  by_cases root : trail.isEmpty = true
  · unfold node?
    rw [if_pos root]
  · have other : Volume.key trail ≠ key := by
      intro same
      unfold node? at folder
      rw [if_neg root, same] at folder
      exact unlike folder
    rw [node?_remove_of_ne other, folder]

theorem walk_remove_of_found {old : String} (unlike : volume.nodes.find? key ≠ some .folder) (other : old ≠ key)
    (found : volume.walk trail names = .found old held) :
    (volume.remove key).walk trail names = .found old held := by
  induction names generalizing trail with
  | nil =>
    unfold walk at found ⊢
    cases here : volume.node? trail with
    | none =>
      rw [here] at found
      contradiction
    | some _ =>
      rw [here] at found
      obtain ⟨same, _⟩ := Place.found.inj found
      rw [node?_remove_of_ne (same ▸ other), here]
      exact found
  | cons name rest ih =>
    obtain ⟨folder, onward, leads⟩ := folder_of_walk (congrArg Place.key? found)
    rw [walk_folder folder leads] at found
    rw [walk_folder (node?_remove_of_folder unlike folder) leads]
    exact ih found

theorem walk_remove_self (found : volume.walk trail names = .found key held) (other : held ≠ .folder) :
    (volume.remove key).walk trail names = .vacant key := by
  have filed := find?_of_walk found other
  have unlike : volume.nodes.find? key ≠ some .folder := fun same => other (Option.some.inj (filed.symm.trans same))
  clear filed
  induction names generalizing trail with
  | nil =>
    unfold walk at found ⊢
    cases here : volume.node? trail with
    | none =>
      rw [here] at found
      contradiction
    | some _ =>
      rw [here] at found
      obtain ⟨same, rfl⟩ := Place.found.inj found
      have gone : (volume.remove key).node? trail = none := by
        unfold node? at here ⊢
        by_cases root : trail.isEmpty = true
        · rw [if_pos root] at here
          exact absurd (Option.some.inj here).symm other
        · rw [if_neg root, remove, KeyMap.find?_erase, if_pos same]
      rw [gone, same]
  | cons name rest ih =>
    obtain ⟨folder, onward, leads⟩ := folder_of_walk (congrArg Place.key? found)
    rw [walk_folder folder leads] at found
    rw [walk_folder (node?_remove_of_folder unlike folder) leads]
    exact ih found

theorem node?_of_remove (here : (volume.remove key).node? trail = some held) : volume.node? trail = some held := by
  unfold node? remove at here
  unfold node?
  by_cases root : trail.isEmpty = true
  · rw [if_pos root] at here ⊢
    exact here
  · rw [if_neg root] at here ⊢
    rw [KeyMap.find?_erase] at here
    split at here
    · contradiction
    · exact here

theorem walk_of_remove {old : String} (found : (volume.remove key).walk trail names = .found old held) :
    volume.walk trail names = .found old held := by
  induction names generalizing trail with
  | nil =>
    unfold walk at found ⊢
    cases here : (volume.remove key).node? trail with
    | none =>
      rw [here] at found
      contradiction
    | some node =>
      rw [here] at found
      rw [node?_of_remove here]
      exact found
  | cons name rest ih =>
    obtain ⟨folder, onward, leads⟩ := folder_of_walk (congrArg Place.key? found)
    rw [walk_folder folder leads] at found
    rw [walk_folder (node?_of_remove folder) leads]
    exact ih found

/-! ## Paths -/

variable {path : String}

theorem find?_of_place (found : volume.place path = .found key held) (other : held ≠ .folder) :
    volume.nodes.find? key = some held := by
  unfold place at found
  by_cases valid : isPath path = true
  · rw [if_pos valid] at found
    exact find?_of_walk found other
  · rw [if_neg valid] at found
    contradiction

theorem find?_of_place_vacant (vacant : volume.place path = .vacant key) : volume.nodes.find? key = none := by
  unfold place at vacant
  by_cases valid : isPath path = true
  · rw [if_pos valid] at vacant
    exact find?_of_vacant vacant
  · rw [if_neg valid] at vacant
    contradiction

theorem place_put_of_found {old : String} (fresh : volume.nodes.find? key = none) (node : Node)
    (found : volume.place path = .found old held) : (volume.put key node).place path = .found old held := by
  unfold place at found ⊢
  by_cases valid : isPath path = true
  · rw [if_pos valid] at found ⊢
    exact walk_put_of_found fresh node found
  · rw [if_neg valid] at found
    contradiction

theorem place_put_of_vacant (node : Node) (vacant : volume.place path = .vacant key) :
    (volume.put key node).place path = .found key node := by
  unfold place at vacant ⊢
  by_cases valid : isPath path = true
  · rw [if_pos valid] at vacant ⊢
    exact walk_put_of_vacant node vacant
  · rw [if_neg valid] at vacant
    contradiction

theorem place_remove_of_found {old : String} (unlike : volume.nodes.find? key ≠ some .folder) (other : old ≠ key)
    (found : volume.place path = .found old held) : (volume.remove key).place path = .found old held := by
  unfold place at found ⊢
  by_cases valid : isPath path = true
  · rw [if_pos valid] at found ⊢
    exact walk_remove_of_found unlike other found
  · rw [if_neg valid] at found
    contradiction

theorem place_of_remove {old : String} (found : (volume.remove key).place path = .found old held) :
    volume.place path = .found old held := by
  unfold place at found ⊢
  by_cases valid : isPath path = true
  · rw [if_pos valid] at found ⊢
    exact walk_of_remove found
  · rw [if_neg valid] at found
    contradiction

theorem place_remove_self (found : volume.place path = .found key held) (other : held ≠ .folder) :
    (volume.remove key).place path = .vacant key := by
  unfold place at found ⊢
  by_cases valid : isPath path = true
  · rw [if_pos valid] at found ⊢
    exact walk_remove_self found other
  · rw [if_neg valid] at found
    contradiction

end Volume

end SharedRecords.Region
