import Steward.Basic

/-!
# `Steward.FileNaming`: where reply files land

`selectFileNaming` picks the file name and the folder for the data of a reply: from the
message itself when it has no previous message, and otherwise from the previous message,
with the node taken from `PreviousMessage.ToNode`, or from `FromNode` when that is empty.
The folder is `filepath.Join(SubscribersDataFolder, directory, node)`.

`filepath.Join` and `filepath.Clean` are Go's, on Unix; `Filepath` below follows their
source and documentation. `Join` drops the leading empty elements, joins the rest with `/`
and cleans the result. `Clean` scans the slash-separated elements: it drops empty and `.`
elements, lets `..` remove the element kept before it, keeps a `..` that has nothing to
remove in a relative path and drops it at the root, and writes `.` for an empty result.

`isBeneath base path` says that the cleaned `path` is `base` or lies beneath it: it is
rooted when `Clean(base)` is, its elements start with those of `Clean(base)`, and none of
the rest is `..`. Nothing in `selectFileNaming` checks the strings it joins, and a `..` in
the directory climbs out of the data folder (`selectFileNaming_escapes`). Without a `..`
element in the strings it joins, and with a data folder that is not empty, the folder lies
beneath the data folder (`selectFileNaming_beneath`).
-/

set_option autoImplicit false

namespace Steward

namespace Filepath

/-- The elements of a path between its slashes: `a//b` has an empty element between its
slashes, and `/a` an empty one before its first. -/
def pathElems (path : String) : List String := (path.data.splitOn '/').map String.mk

/-- A path that starts at the root. -/
def isRooted (path : String) : Bool := path.data.head? == some '/'

/-- One element of `Clean`'s scan, onto the kept elements (the last kept first). -/
def cleanStep (rooted : Bool) (out : List String) (e : String) : List String :=
  if e = "" ∨ e = "." then out
  else if e = ".." then
    match out with
    | x :: rest => if x = ".." then (if rooted then out else e :: out) else rest
    | [] => if rooted then [] else [e]
  else e :: out

/-- `filepath.Clean` on Unix. -/
def clean (path : String) : String :=
  if path = "" then "."
  else
    let out := ((pathElems path).foldl (cleanStep (isRooted path)) []).reverse
    let s := (if isRooted path then "/" else "") ++ String.intercalate "/" out
    if s = "" then "." else s

/-- `filepath.Join` on Unix: the elements from the first non-empty one, joined with `/` and
cleaned; `""` when every element is empty. -/
def join (elem : List String) : String :=
  match elem.dropWhile (· == "") with
  | [] => ""
  | es => clean (String.intercalate "/" es)

/-- The elements of a path that name a folder: every element but the empty ones and `.`. -/
def elemsOf (path : String) : List String := (pathElems path).filter (fun e => e != "" && e != ".")

/-- The cleaned `path` is `base` or lies beneath it. -/
def isBeneath (base path : String) : Bool :=
  isRooted (clean base) == isRooted path &&
    (elemsOf (clean base)).isPrefixOf (elemsOf path) &&
    !((elemsOf path).drop (elemsOf (clean base)).length).contains ".."

/-- An element `Clean` keeps: not empty, not `.`, and without a slash. -/
def Kept (e : String) : Prop := e ≠ "" ∧ e ≠ "." ∧ '/' ∉ e.data

/-- A slash between two paths splits their elements apart. -/
theorem pathElems_append_slash (a b : String) :
    pathElems (a ++ "/" ++ b) = pathElems a ++ pathElems b := by
  have key : ∀ l : List Char,
      (l ++ '/' :: b.data).splitOn '/' = l.splitOn '/' ++ b.data.splitOn '/' := by
    intro l
    induction l with
    | nil => simp [List.splitOn, List.splitOnP_cons]
    | cons c l ih =>
      simp only [List.cons_append, List.splitOn, List.splitOnP_cons] at ih ⊢
      split_ifs
      · simp [ih]
      · rw [ih]
        cases hs : l.splitOnP (· == '/') with
        | nil => exact absurd hs (List.splitOnP_ne_nil _ _)
        | cons w ws => simp
  simp [pathElems, key]

/-- No element of a path holds a slash. -/
theorem slash_not_mem_of_mem_pathElems {path e : String} (h : e ∈ pathElems path) :
    '/' ∉ e.data := by
  have key : ∀ (l : List Char), ∀ w ∈ l.splitOn '/', '/' ∉ w := by
    intro l
    induction l with
    | nil => simp [List.splitOn]
    | cons c l ih =>
      simp only [List.splitOn, List.splitOnP_cons] at ih ⊢
      split_ifs with hc
      · simpa using ih
      · intro w hw
        cases hs : l.splitOnP (· == '/') with
        | nil => exact absurd hs (List.splitOnP_ne_nil _ _)
        | cons w' ws =>
          rw [hs] at hw ih
          rcases List.mem_cons.1 hw with rfl | hw
          · simpa [eq_comm] using And.intro (by simpa using hc) (ih w' (List.mem_cons_self _ _))
          · exact ih w (List.mem_cons_of_mem _ hw)
  obtain ⟨w, hw, rfl⟩ := List.mem_map.1 h
  exact key _ w hw

/-- Elements without a slash, joined with `/`, split back into themselves. -/
theorem pathElems_intercalate {out : List String} (hne : out ≠ [])
    (h : ∀ e ∈ out, '/' ∉ e.data) : pathElems (String.intercalate "/" out) = out := by
  obtain ⟨x, xs, rfl⟩ := List.exists_cons_of_ne_nil hne
  have hdata : (String.intercalate "/" (x :: xs)).data =
      List.intercalate ['/'] ((x :: xs).map String.data) := data_intercalate_go "/" xs x
  rw [pathElems, hdata, List.splitOn_intercalate _ '/' (by simpa using h) (by simp)]
  simp [show String.mk ∘ String.data = id from rfl]

/-- `Clean`'s scan keeps only kept elements. -/
theorem kept_cleanStep (rooted : Bool) (out : List String) (e : String) (he : '/' ∉ e.data)
    (hout : ∀ x ∈ out, Kept x) : ∀ x ∈ cleanStep rooted out e, Kept x := by
  have hdd : Kept ".." := ⟨by decide, by decide, by decide⟩
  by_cases h₁ : e = "" ∨ e = "."
  · simpa [cleanStep, h₁] using hout
  by_cases h₂ : e = ".."
  · subst h₂
    cases out with
    | nil => cases rooted <;> simp [cleanStep, hdd]
    | cons x rest =>
      by_cases hx : x = ".."
      · cases rooted <;> simp [cleanStep, hx, hdd] <;>
          exact fun y hy => hout y (List.mem_cons_of_mem _ hy)
      · simpa [cleanStep, hx] using fun y hy => hout y (List.mem_cons_of_mem _ hy)
  · simp only [cleanStep, h₁, h₂, if_false]
    exact List.forall_mem_cons.2 ⟨⟨fun h => h₁ (.inl h), fun h => h₁ (.inr h), he⟩, hout⟩

/-- The scan over the elements of a path keeps only kept elements. -/
theorem kept_foldl_cleanStep (rooted : Bool) :
    ∀ (es : List String) (out : List String), (∀ e ∈ es, '/' ∉ e.data) →
      (∀ x ∈ out, Kept x) → ∀ x ∈ es.foldl (cleanStep rooted) out, Kept x
  | [], _, _, hout => hout
  | e :: es, out, hes, hout =>
    kept_foldl_cleanStep rooted es _ (fun e' h => hes e' (List.mem_cons_of_mem _ h))
      (kept_cleanStep rooted out e (hes e (List.mem_cons_self _ _)) hout)

/-- Without a `..`, the scan keeps every element that is neither empty nor `.`, in order. -/
theorem foldl_cleanStep_of_no_dotdot (rooted : Bool) :
    ∀ (es : List String) (out : List String), ".." ∉ es →
      es.foldl (cleanStep rooted) out =
        (es.filter (fun e => e != "" && e != ".")).reverse ++ out
  | [], _, _ => rfl
  | e :: es, out, h => by
    have he : e ≠ ".." := fun he => h (he ▸ List.mem_cons_self _ _)
    rw [List.foldl_cons, foldl_cleanStep_of_no_dotdot rooted es _
      (fun h' => h (List.mem_cons_of_mem _ h'))]
    by_cases hk : e = "" ∨ e = "."
    · rcases hk with rfl | rfl <;> simp [cleanStep]
    · push_neg at hk
      simp [cleanStep, hk, he]

/-- The elements of a cleaned path are those the scan kept, and cleaning keeps the root. -/
theorem elemsOf_clean {path : String} (hp : path ≠ "") :
    elemsOf (clean path) =
        ((pathElems path).foldl (cleanStep (isRooted path)) []).reverse ∧
      isRooted (clean path) = isRooted path := by
  have hkept : ∀ x ∈ ((pathElems path).foldl (cleanStep (isRooted path)) []).reverse,
      Kept x := fun x hx =>
    kept_foldl_cleanStep _ _ [] (fun _ => slash_not_mem_of_mem_pathElems) (by simp) x
      (List.mem_reverse.1 hx)
  simp only [clean, hp, if_false]
  generalize ((pathElems path).foldl (cleanStep (isRooted path)) []).reverse = out at hkept ⊢
  have hfilter : out.filter (fun e => e != "" && e != ".") = out :=
    List.filter_eq_self.2 fun e he => by simp [(hkept e he).1, (hkept e he).2.1]
  cases out with
  | nil => cases isRooted path <;> decide
  | cons x xs =>
    have hx := hkept x (List.mem_cons_self _ _)
    have hI := pathElems_intercalate (List.cons_ne_nil x xs) fun e he => (hkept e he).2.2
    obtain ⟨c, cs, hxd⟩ := List.exists_cons_of_ne_nil fun h => hx.1 (String.ext h)
    have hc : c ≠ '/' := fun hc => hx.2.2 (by simp [hxd, hc])
    have hhead : (String.intercalate "/" (x :: xs)).data.head? = some c := by
      rw [show (String.intercalate "/" (x :: xs)).data =
        List.intercalate ['/'] ((x :: xs).map String.data) from data_intercalate_go "/" xs x]
      cases xs <;> simp [List.intercalate, List.intersperse_cons₂, hxd]
    have hne : String.intercalate "/" (x :: xs) ≠ "" := fun h => by simp [h] at hhead
    cases isRooted path
    · simp only [Bool.false_eq_true, if_false, String.empty_append, hne]
      exact ⟨by simp [elemsOf, hI, hfilter], by simp [isRooted, hhead, hc]⟩
    · have hs : "/" ++ String.intercalate "/" (x :: xs) ≠ "" := fun h =>
        List.cons_ne_nil '/' _ (congrArg String.data h :)
      simp only [if_true, hs, if_false]
      refine ⟨?_, by simp [isRooted]⟩
      rw [show "/" ++ String.intercalate "/" (x :: xs) =
          "" ++ "/" ++ String.intercalate "/" (x :: xs) by simp,
        elemsOf, pathElems_append_slash, hI]
      simpa [pathElems] using hfilter

/-- A join of a non-empty folder with two more strings, none of whose elements is `..`, is
the folder or lies beneath it. -/
theorem isBeneath_join {f d n : String} (hf : f ≠ "") (hd : ".." ∉ pathElems d)
    (hn : ".." ∉ pathElems n) : isBeneath f (join [f, d, n]) = true := by
  obtain ⟨c, cs, hc⟩ := List.exists_cons_of_ne_nil fun h => hf (String.ext h)
  have hJ : f ++ "/" ++ d ++ "/" ++ n ≠ "" := fun h => by
    simpa [hc] using congrArg String.data h
  have hjoin : join [f, d, n] = clean (f ++ "/" ++ d ++ "/" ++ n) := by
    have hb : (f == "") = false := by simp [hf]
    simp only [join, List.dropWhile, hb]
    rfl
  have helems : pathElems (f ++ "/" ++ d ++ "/" ++ n) =
      pathElems f ++ (pathElems d ++ pathElems n) := by
    rw [pathElems_append_slash, pathElems_append_slash, List.append_assoc]
  have hroot : isRooted (f ++ "/" ++ d ++ "/" ++ n) = isRooted f := by
    simp [isRooted, hc]
  obtain ⟨hJe, hJr⟩ := elemsOf_clean hJ
  obtain ⟨hfe, hfr⟩ := elemsOf_clean hf
  have hno : ".." ∉ pathElems d ++ pathElems n := by simp [hd, hn]
  rw [hjoin, isBeneath, hJe, hJr, hfe, hfr, helems, hroot, List.foldl_append,
    foldl_cleanStep_of_no_dotdot _ _ _ hno]
  simp only [List.reverse_append, List.reverse_reverse, beq_self_eq_true, Bool.true_and,
    List.drop_left]
  rw [List.isPrefixOf_iff_prefix.2 (List.prefix_append _ _)]
  simpa [List.mem_filter] using hno

end Filepath

/-- The field of the node's configuration that `selectFileNaming` reads through
`proc.configuration`. -/
structure Configuration where
  subscribersDataFolder : String

/-- The case of `selectFileNaming`'s switch that applies: its file name, and the directory and
node that it joins under the data folder. -/
def selectFileNaming.parts (message : Message) : String × String × String :=
  match message.previousMessage with
  | none => (message.fileName, message.directory, message.toNode)
  | some prev =>
    if prev.toNode != "" then (prev.fileName, prev.directory, prev.toNode)
    else (prev.fileName, prev.directory, message.fromNode)

/-- `selectFileNaming`: the file name and the folder tree for the reply data, the tree being
`filepath.Join(SubscribersDataFolder, directory, node)` of the case that applies. -/
def selectFileNaming (message : Message) (configuration : Configuration) : String × String :=
  ((selectFileNaming.parts message).1,
    Filepath.join [configuration.subscribersDataFolder, (selectFileNaming.parts message).2.1,
      (selectFileNaming.parts message).2.2])

/-- With a data folder that is not empty, and no `..` element in the directory and the node
that the applying case joins to it, the folder tree lies beneath the data folder. -/
theorem selectFileNaming_beneath (message : Message) (configuration : Configuration)
    (hf : configuration.subscribersDataFolder ≠ "")
    (hdir : ".." ∉ Filepath.pathElems (selectFileNaming.parts message).2.1)
    (hnode : ".." ∉ Filepath.pathElems (selectFileNaming.parts message).2.2) :
    Filepath.isBeneath configuration.subscribersDataFolder
      (selectFileNaming message configuration).2 = true :=
  Filepath.isBeneath_join hf hdir hnode

/-- A request from `ship1` for the logs of `central`, and one whose directory climbs out. -/
def logsRequest (directory : String) : Message :=
  { Message.zero with directory := directory, toNode := "central", fromNode := "ship1" }

/-- The reply to a request for the log directory of `central` lands in `var/logs/central`. -/
theorem selectFileNaming_logs_beneath :
    (selectFileNaming (logsRequest "logs") ⟨"./var"⟩).2 = "var/logs/central" ∧
      Filepath.isBeneath "./var" (selectFileNaming (logsRequest "logs") ⟨"./var"⟩).2 = true :=
  ⟨by decide, selectFileNaming_beneath _ ⟨"./var"⟩ (by decide) (by decide) (by decide)⟩

/-- A `..` in the directory climbs out of the data folder, and so does an absolute
directory under an empty data folder. -/
theorem selectFileNaming_escapes :
    (selectFileNaming (logsRequest "../../etc") ⟨"./var"⟩).2 = "../etc/central" ∧
      Filepath.isBeneath "./var" "../etc/central" = false ∧
      (selectFileNaming (logsRequest "/etc") ⟨""⟩).2 = "/etc/central" ∧
      Filepath.isBeneath "" "/etc/central" = false := by
  decide

end Steward
