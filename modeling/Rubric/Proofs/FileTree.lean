/-
  Rubric.Proofs.FileTree

  A path from the root leads where its names lead.

  A tree follows a path part by part and stays where it is at an empty part. So
  slashes in a row do not matter (`FileTree.find_squeeze`), unless a slash at the
  end asks for a directory. `Host.FollowsNames` says as much of a host, and the
  host of a tree is one of these.
-/
import Rubric.Proofs.Path

namespace Rubric

namespace FileTree

variable (tree : FileTree)

/-- In front of the first slash there is an empty part. -/
theorem follow_empty (names : List String) (rest : List String) :
    tree.follow (.directory names) (String.ofList [] :: rest) =
      tree.follow (.directory names) rest := by
  simp [follow]

/-- Empty parts are passed over, unless they are the last. -/
theorem follow_said (entry : Entry) (parts : List (List Char)) (name : String) :
    tree.follow entry ((Path.said parts).map String.ofList ++ [name]) =
      tree.follow entry (parts.map String.ofList ++ [name]) := by
  induction parts generalizing entry with
  | nil => rfl
  | cons part parts ih =>
    cases entry with
    | file text => cases hsaid : (Path.said (part :: parts)).map String.ofList <;> rfl
    | directory names =>
      by_cases hpart : part = []
      · rw [hpart, Path.said_cons_nil, ih, List.map_cons, List.cons_append, follow_empty]
      · simp only [Path.said_cons hpart, List.map_cons, List.cons_append, follow, ih]

/-- Slashes in a row do not matter to where a path leads. -/
theorem find_squeeze {path : String} (h : Path.IsPlain path) (htrim : Path.IsTrimmed path)
    (here : List String) : tree.find here (Path.squeeze path) = tree.find here path := by
  rcases htrim with rfl | hlast
  · rfl
  obtain ⟨before, name, hname, hparts⟩ := h.exists_last hlast
  have hsqueezed := hparts.squeeze hname
  have hnul : (Path.squeeze path).toList.contains '\x00' = path.toList.contains '\x00' := by
    simp
  have hfollow := tree.follow_said (.directory []) before (String.ofList name)
  rw [find, find, hnul, Path.isEmpty_squeeze, Path.isAbsolute_squeeze, h.1, hparts.text,
    hsqueezed.text, Path.splitOn_spell hparts.noSlash, Path.splitOn_spell hsqueezed.noSlash]
  simp only [List.map_cons, List.map_append, List.map_nil, follow_empty, if_true, hfollow]

end FileTree

/-- A host to which slashes in a row do not matter in a path from the root without a slash at
    its end. -/
structure Host.FollowsNames (host : Host Id) : Prop where
  isFile_squeeze : ∀ path, Path.IsPlain path → Path.IsTrimmed path →
    host.isFile (Path.squeeze path) = host.isFile path
  readText_squeeze : ∀ path, Path.IsPlain path → Path.IsTrimmed path →
    host.readText (Path.squeeze path) = host.readText path

/-- Files and directories are found by names. -/
theorem FileTree.host_followsNames (tree : FileTree) (here : List String)
    (settingsDirectory : Option String) (network : Network) :
    (tree.host here settingsDirectory network).FollowsNames where
  isFile_squeeze path h htrim := by
    show tree.isFile here _ = tree.isFile here _
    rw [FileTree.isFile, tree.find_squeeze h htrim, FileTree.isFile]
  readText_squeeze path h htrim := by
    show tree.readText here _ = tree.readText here _
    rw [FileTree.readText, tree.find_squeeze h htrim, FileTree.readText]

end Rubric
