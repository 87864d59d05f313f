import PromptShell.Host.World
namespace PromptShell

namespace Host

/-- The paths at which the program of a name is looked for. -/
def candidates (searchPath : Option String) (name : String) : List String :=
  if name.toList.contains '/' then [name] else searchedPaths searchPath name

/-- Steps that give a result one behind the other have given one each. -/
theorem exists_of_bind {First Second : Type} {first : Except Errno First}
    {next : First → Except Errno Second} {result : Second}
    (given : (first >>= next) = .ok result) :
    ∃ found, first = .ok found ∧ next found = .ok result := by
  cases first with
  | error errno => cases given
  | ok found => exact ⟨found, rfl, given⟩

/-- A file that was opened is run with all arguments but the one that stands for its name. -/
theorem follow_arguments {top : Node} {launching : Launching} {taken bound : Nat} {path : String}
    {arguments : List String} {loadable : Loadable} {image : Image}
    (followed : follow top launching taken bound path arguments loadable = .ok image) :
    arguments.tail <:+ image.arguments := by
  -- Along a chain of runners each one gets the path of the text in the place of the name.
  induction bound generalizing path arguments loadable with
  | zero => cases followed
  | succ bound ih =>
      cases loadable with
      | tool tool =>
          rw [follow, Except.ok.injEq] at followed
          rw [← followed]
          exact List.tail_suffix arguments
      | text content =>
          rw [follow] at followed
          split at followed
          · obtain ⟨tool, -, same⟩ := exists_of_bind followed
            rw [← Except.ok.inj same]
            exact List.tail_suffix arguments
          · rename_i name argument _
            dsimp only at followed
            split at followed
            · obtain ⟨runner, -, behind⟩ := exists_of_bind followed
              exact List.IsSuffix.trans ⟨argument ++ [path], by simp⟩ (ih behind)
            · cases followed

/-- A file is loaded with all arguments but the one that stands for its name. -/
theorem load_arguments {top : Node} {launching : Launching} {path : String}
    {arguments : List String} {image : Image}
    (loaded : load top launching path arguments = .ok image) :
    arguments.tail <:+ image.arguments := by
  rw [load] at loaded
  obtain ⟨loadable, -, following⟩ := exists_of_bind loaded
  dsimp only at following
  split at following
  · exact follow_arguments following
  · cases following

theorem loadOrScript_arguments {top : Node} {launching : Launching} {isText : Bytes → Bool}
    {path : String} {arguments : List String} {image : Image}
    (loaded : loadOrScript top launching isText path arguments = .ok image) :
    arguments.tail <:+ image.arguments := by
  rw [loadOrScript] at loaded
  split at loaded
  · simp only at loaded
    split at loaded
    · exact List.IsSuffix.trans ⟨[path], by simp⟩ (load_arguments loaded)
    · cases loaded
  · rename_i found direct
    rw [Except.ok.injEq] at loaded
    exact loaded ▸ load_arguments direct

/-- What is found by trying paths was loaded from one of them. -/
theorem tryEach_ok {top : Node} {launching : Launching} {arguments paths : List String}
    {denied : Bool} {last : Errno} {image : Image}
    (found : tryEach top launching arguments denied last paths = .ok image) :
    ∃ path ∈ paths, loadOrScript top launching (fun _ => true) path arguments = .ok image := by
  induction paths generalizing denied last with
  | nil => simp [tryEach] at found
  | cons path rest ih =>
      rw [tryEach] at found
      split at found
      · rename_i loaded
        exact ⟨path, List.mem_cons_self, loaded.trans found⟩
      · split at found
        · obtain ⟨other, member, loaded⟩ := ih found
          exact ⟨other, List.mem_cons_of_mem path member, loaded⟩
        · cases found

/-- A name with a slash is a path, and another one is looked for along the search path. -/
theorem findProgram_cons (top : Node) (launching : Launching) (searchPath : Option String)
    (before : Errno) (name : String) (others : List String) :
    findProgram top launching searchPath before (name :: others) =
      if name.isEmpty then .error .noEntry
      else if name.toList.contains '/' then
        loadOrScript top launching (fun _ => true) name (name :: others)
      else tryEach top launching (name :: others) false before (searchedPaths searchPath name) :=
  rfl

/-- A program that is found was loaded from a path that the first argument gives, and has the other
arguments behind whatever stands in front of them. -/
theorem findProgram_ok {top : Node} {launching : Launching} {searchPath : Option String}
    {before : Errno} {name : String} {others : List String} {image : Image}
    (found : findProgram top launching searchPath before (name :: others) = .ok image) :
    (∃ path ∈ candidates searchPath name,
        loadOrScript top launching (fun _ => true) path (name :: others) = .ok image) ∧
      others <:+ image.arguments := by
  have searched : ∃ path ∈ candidates searchPath name,
      loadOrScript top launching (fun _ => true) path (name :: others) = .ok image := by
    rw [findProgram_cons] at found
    split at found
    · cases found
    · split at found
      · rename_i slash
        refine ⟨name, ?_, found⟩
        rw [candidates, if_pos slash]
        exact List.mem_singleton_self name
      · rename_i slash
        rw [candidates, if_neg slash]
        exact tryEach_ok found
  obtain ⟨path, member, loaded⟩ := searched
  exact ⟨⟨path, member, loaded⟩, loadOrScript_arguments loaded⟩

/-- The search of a host for the program of a child. -/
def World.search (world : World) (directory : Directory) (arguments : List Bytes) :
    Except Errno Image :=
  findProgram (world.scene.seenBy (world.around directory).descriptors)
    ((world.around directory).launching world.scene) (world.environment.lookup "PATH")
    world.latestFault (arguments.map Raw.ofBytes)

/-- A host has found a program for arguments. It was loaded from a path that the first of them
gives, and has the others behind whatever the host puts in front of them. -/
structure World.Finds (world : World) (directory : Directory) (arguments : List Bytes)
    (image : Image) : Prop where
  loaded : ∃ path ∈ candidates (world.environment.lookup "PATH")
      (Raw.ofBytes (arguments.headD [])),
    loadOrScript (world.scene.seenBy (world.around directory).descriptors)
      ((world.around directory).launching world.scene) (fun _ => true) path
      (arguments.map Raw.ofBytes) = .ok image
  given : arguments.tail.map Raw.ofBytes <:+ image.arguments

/-- What a search gives was found for the arguments. -/
theorem World.finds_of_search {world : World} {directory : Directory} {arguments : List Bytes}
    {image : Image} (found : world.search directory arguments = .ok image) :
    world.Finds directory arguments image := by
  cases arguments with
  | nil => cases found
  | cons first others =>
      obtain ⟨loaded, given⟩ := findProgram_ok found
      exact ⟨loaded, given⟩

/-- A host can always split a child off. The child has no program exactly if the search for it
fails, and else runs one that was found for the arguments. -/
theorem exists_started (world : World) (directory : Directory) (arguments : List Bytes) :
    ∃ child, machine.start world directory arguments = .ok child ∧
      match world.search directory arguments with
      | .ok image => world.Finds directory arguments image ∧ ∃ course, child.outcome = .ok course
      | .error errno => child.outcome = .error errno := by
  have same : machine.start world directory arguments = start world directory arguments := rfl
  rw [same, start]
  cases found : world.search directory arguments with
  | error errno =>
      rw [World.search] at found
      simp only [found]
      exact ⟨_, rfl, rfl⟩
  | ok image =>
      have finds := World.finds_of_search found
      rw [World.search] at found
      simp only [found]
      exact ⟨_, rfl, finds, _, rfl⟩

end Host
end PromptShell
