import PackageClosure.Counting
import PackageClosure.Disk.Lookup

set_option autoImplicit false

namespace PackageClosure

namespace Location

theorem length_names_follow_le (location : Location) (step : Step) :
    (location.follow step).names.length ≤ location.names.length + 1 := by
  cases step with
  | root => simp [follow, root]
  | current => simp [follow]
  | parent =>
      rw [follow, up]
      split <;> simp
      omega
  | name name => simp [follow, child]

theorem length_names_followAll_le (location : Location) (steps : List Step) :
    (location.followAll steps).names.length ≤ location.names.length + steps.length := by
  induction steps generalizing location with
  | nil => simp [followAll]
  | cons step rest ih =>
      have below := ih (location.follow step)
      have first := location.length_names_follow_le step
      rw [followAll_cons, List.length_cons]
      omega

end Location

namespace Path

theorem length_inner_le (text : List Char) : (inner text).length ≤ text.length + 1 :=
  Nat.le_trans (List.length_filterMap_le _ _) (Text.length_pieces_le '/' text)

theorem length_names_location_le (path : Path) :
    path.location.names.length ≤ path.text.toList.length + 1 := by
  rw [location, Location.join, steps, followAll_stepsOf]
  have bound := Location.length_names_followAll_le
    (if path.text.toList.head? = some '/' then Location.root else Location.here)
    (inner path.text.toList)
  have short := length_inner_le path.text.toList
  have start : (if path.text.toList.head? = some '/' then Location.root
      else Location.here).names.length = 0 := by
    split <;> rfl
  omega

end Path

namespace Disk

theorem length_lt_of_find (disk : Disk) (current : Held) (follow : Bool) (path : Path)
    (found : (disk.find current follow path).isOk = true) :
    path.text.toList.length < pathLimit := by
  have bytes := Text.length_le_rawLength path.text.toList
  unfold find at found
  dsimp only at found
  split at found
  · simp [Except.isOk, Except.toBool] at found
  · split at found
    · simp [Except.isOk, Except.toBool] at found
    · split at found
      · simp [Except.isOk, Except.toBool] at found
      · omega

theorem find_isOk_of_stat (disk : Disk) (current : Held) (path : Path)
    (found : (disk.stat current path).isOk = true) :
    (disk.find current true path).isOk = true := by
  unfold stat at found
  cases shape : disk.find current true path with
  | ok value => rfl
  | error error =>
      rw [shape] at found
      exact absurd found (by simp [bind, Except.bind, Except.isOk, Except.toBool])

theorem stat_isOk_of_read (disk : Disk) (current : Held) (path : Path)
    (readable : (disk.read current path).isOk = true) :
    (disk.stat current path).isOk = true := by
  unfold read at readable
  cases shape : disk.stat current path with
  | ok value => rfl
  | error error =>
      rw [shape] at readable
      exact absurd readable (by simp [bind, Except.bind, Except.isOk, Except.toBool])

theorem find_isOk_of_list (disk : Disk) (current : Held) (path : Path)
    (listed : (disk.list current path).isOk = true) :
    (disk.find current true path).isOk = true := by
  unfold list at listed
  cases shape : disk.find current true path with
  | ok value => rfl
  | error error =>
      rw [shape] at listed
      exact absurd listed (by simp [bind, Except.bind, Except.isOk, Except.toBool])

theorem nodup_texts (paths : List Path) (distinct : (paths.map Path.location).Nodup) :
    (paths.map fun path => path.text.toList).Nodup := by
  rw [List.nodup_iff_pairwise_ne, List.pairwise_map] at distinct ⊢
  refine distinct.imp ?_
  intro left right differs same
  have texts : left = right := by
    cases left
    cases right
    exact congrArg Path.mk (String.toList_inj.mp same)
  exact differs (congrArg Path.location texts)

def storage (disk : Disk) (current : Held) : Storage where
  read path := disk.read current path
  list path := disk.list current path
  has path := disk.has current path
  fileBound := Counting.textBound pathLimit
  depthBound := pathLimit
  length_le_fileBound := by
    intro paths distinct readable
    have bounded := Counting.length_le_of_short (paths.map fun path => path.text.toList) pathLimit
      (nodup_texts paths distinct) (by
        intro text member
        obtain ⟨path, inside, rfl⟩ := List.mem_map.mp member
        have found := disk.find_isOk_of_stat current path
          (disk.stat_isOk_of_read current path (readable path inside))
        exact Nat.le_of_lt (disk.length_lt_of_find current true path found))
    simpa using bounded
  length_le_depthBound := by
    intro path listed
    have short := disk.length_lt_of_find current true path
      (disk.find_isOk_of_list current path listed)
    have names := path.length_names_location_le
    omega

end Disk

end PackageClosure
