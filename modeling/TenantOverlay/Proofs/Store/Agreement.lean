import Mathlib.Data.List.Perm.Basic
import Mathlib.Data.List.TakeWhile
import TenantOverlay.Proofs.Json.RoundTrip
import TenantOverlay.Proofs.Store.Nodes

/-!
# The store in memory and the store over the network

Both answer the same requests. `KeyTree.reads_agree` compares what they find under a key when the network
answers from the content that is in memory (`StoreClient.IsServed`). A key is there for the one exactly when
it is there for the other, and a directory has the same values. A search is another matter: in memory it looks
at all values below a directory, over the network at those directly below it. So the two differ where values
lie further below and fewer than two directly below, as in `KeyTree.search_nested_differs`. A list of what is
below a file is empty over the network, and in memory there is none.
-/

namespace TenantOverlay

open Web (Message Url)

namespace KeyTree

/-- What a store whose keys are paths can hold: no segment of a key is empty, and no key is below another. -/
structure IsTree (t : KeyTree) : Prop where
  segments {key : String} : (t.get? key).isSome = true → [] ∉ Text.splitOn '/' key.toList
  apart {key k : String} : (t.get? key).isSome = true → (t.get? k).isSome = true → isBelow key k = false

/-- A value below a directory that is not directly below it. -/
def HasSubdirectory (t : KeyTree) (directory : String) : Prop :=
  ∃ k rest, below? directory k = some rest ∧ '/' ∈ rest ∧ (t.get? k).isSome = true

variable {t : KeyTree} {key directory name value : String}

lemma nodup_files : (t.files directory).Nodup := (t.nodup_childrenOf directory).of_map.filter _

lemma hasSubdirectory_iff : t.HasSubdirectory directory ↔ ∃ c ∈ t.childrenOf directory, '/' ∈ c.1 := by
  constructor
  · rintro ⟨k, rest, below, nested, present⟩
    obtain ⟨value, e⟩ := Option.isSome_iff_exists.1 present
    rw [eq_childKey_of_below? below] at e
    exact ⟨(rest, value), mem_childrenOf_iff.2 e, nested⟩
  · rintro ⟨⟨rest, value⟩, m, nested⟩
    refine ⟨_, rest, ?_, nested, Option.isSome_of_eq_some (mem_childrenOf_iff.1 m)⟩
    rw [below?_childKey, String.toList_ofList]

lemma slash_not_mem_of_mem_childNames (h : name ∈ t.childNames directory) : '/' ∉ name.toList := by
  obtain ⟨c, -, rfl⟩ := List.mem_map.1 h
  rw [String.toList_ofList]
  exact fun m => absurd (List.mem_takeWhile_imp m) (by decide)

/-- What a file adds to its directory is its name. -/
lemma mem_childNames_of_file {rest : List Char} (single : '/' ∉ rest)
    (h : (rest, value) ∈ t.childrenOf directory) : String.ofList rest ∈ t.childNames directory := by
  refine List.mem_map.2 ⟨_, h, congrArg String.ofList ?_⟩
  refine List.takeWhile_eq_self_iff.2 fun c m => bne_iff_ne.2 ?_
  rintro rfl
  exact single m

/-- A file of a tree has nothing below it. -/
lemma IsTree.childrenOf_eq_nil (tree : t.IsTree) (present : t.get? key = some value) :
    t.childrenOf key = [] := by
  refine List.eq_nil_iff_forall_not_mem.2 ?_
  rintro ⟨rest, v⟩ m
  have below := mem_childrenOf_iff.1 m
  have apart := tree.apart (Option.isSome_of_eq_some present) (Option.isSome_of_eq_some below)
  unfold isBelow at apart
  rw [below?_childKey] at apart
  cases apart

/-- What has to be checked of the entries of a tree. -/
lemma IsTree.of_entries (h : ∀ e ∈ t.entries, [] ∉ Text.splitOn '/' e.1.toList ∧
    ∀ f ∈ t.entries, isBelow e.1 f.1 = false) : t.IsTree where
  segments {key} present := by
    obtain ⟨value, e⟩ := Option.isSome_iff_exists.1 present
    exact (h _ (t.get?_eq_some_iff.1 e)).1
  apart {key k} present present' := by
    obtain ⟨value, e⟩ := Option.isSome_iff_exists.1 present
    obtain ⟨value', e'⟩ := Option.isSome_iff_exists.1 present'
    exact (h _ (t.get?_eq_some_iff.1 e)).2 _ (t.get?_eq_some_iff.1 e')

end KeyTree

section Search

variable {key : String} {values found : List String}

/-- In which order the values are found makes no difference. -/
lemma Result.only_congr (h : values.Perm found) : Result.only key values = Result.only key found := by
  match values, found with
  | [], found => rw [h.nil_eq]
  | [v], found => rw [List.perm_singleton.1 h.symm]
  | _ :: _ :: _, [] => exact absurd h.length_eq nofun
  | _ :: _ :: _, [_] => exact absurd h.length_eq (by simp)
  | _ :: _ :: _, _ :: _ :: _ => rfl

/-- Fewer values give the same result only when none are left out, or two are left. -/
lemma Result.only_eq_iff (sub : values.Sublist found) :
    Result.only key values = Result.only key found ↔
      values.length = found.length ∨ 2 ≤ values.length := by
  constructor
  · intro same
    match values, found with
    | [], [] => exact .inl rfl
    | [], [_] => cases same
    | [], _ :: _ :: _ => cases same
    | [_], [] => cases same
    | [_], [_] => exact .inl rfl
    | [_], _ :: _ :: _ => cases same
    | _ :: _ :: _, _ => exact .inr (by simp)
  · rintro (all | two)
    · rw [sub.eq_of_length all]
    · match values, found, two, sub.length_le with
      | _ :: _ :: _, _ :: _ :: _, _, _ => rfl

end Search

section Memory

namespace KeyTree

variable {t : KeyTree} {key value : String}

/-- The values directly below a directory are all of them, or two, exactly when a search for the one value
directly below it gives the same as one for the one value anywhere below it. -/
lemma only_files_iff : Result.only key ((t.files key).map (·.2)) =
      Result.only key ((t.childrenOf key).map (·.2)) ↔
    ¬ t.HasSubdirectory key ∨ 2 ≤ (t.files key).length := by
  have sub : ((t.files key).map (·.2)).Sublist ((t.childrenOf key).map (·.2)) :=
    (List.filter_sublist).map _
  rw [Result.only_eq_iff sub, List.length_map, List.length_map, hasSubdirectory_iff]
  refine or_congr_left ?_
  unfold files
  rw [List.length_filter_eq_length_iff]
  simp

end KeyTree

end Memory

section Network

namespace StoreClient

/-- What a request comes to where every message has an outcome. -/
def ask (c : StoreClient) (outcome : Message → Web.Outcome) (r : StoreRequest) : Result r.Reply :=
  ((c.perform r).run (fun m (s : Unit) => (outcome m, s)) ()).1

/-- A message is answered: the endpoints before the one that answers cannot be reached. -/
inductive Reaches (outcome : Message → Web.Outcome) (f : Form) (status : Nat) (body : String) : List Url → Prop
  | here {endpoint : Url} {rest : List Url} {m : Message} (made : message? endpoint f = some m)
    (sendable : isSendable m.url = true) (answered : outcome m = .answer status (some body)) :
    Reaches outcome f status body (endpoint :: rest)
  | later {endpoint : Url} {rest : List Url} {m : Message} (made : message? endpoint f = some m)
    (sendable : isSendable m.url = true) (unreachable : outcome m = .unreachable)
    (others : Reaches outcome f status body rest) : Reaches outcome f status body (endpoint :: rest)

/-- The message that reads a key is answered from a tree. -/
def IsServed (c : StoreClient) (outcome : Message → Web.Outcome) (t : KeyTree) (key : String) : Prop :=
  ∃ status body, Reaches outcome ⟨.get, key, [], none⟩ status body c.endpoints ∧ t.Answers key status body

variable {outcome : Message → Web.Outcome} {f : Form} {status : Nat} {body : String}

/-- After a message has been sent, its outcome decides. -/
lemma run_send_bind {α : Type} {m : Message} {next : Web.Outcome → Program Web.network α} :
    (Web.send m >>= next).run (fun m (s : Unit) => (outcome m, s)) () =
      (next (outcome m)).run (fun m (s : Unit) => (outcome m, s)) () := rfl

/-- An answered message comes to what the answer says, whatever the endpoints before it came to. -/
lemma Reaches.tryEach {endpoints : List Url} (h : Reaches outcome f status body endpoints) (last : Error) :
    (tryEach f last endpoints).run (fun m (s : Unit) => (outcome m, s)) () =
      (readAnswer status body f.key, ()) := by
  induction h generalizing last with
  | here made sendable answered =>
    simp only [StoreClient.tryEach, made, sendable, if_true, run_send_bind, answered]
    rfl
  | later made sendable unreachable _ ih =>
    simp only [StoreClient.tryEach, made, sendable, if_true, run_send_bind, unreachable]
    exact ih _

/-- What a client answers is what it reads off the node of the answer. -/
lemma Reaches.ask {c : StoreClient} {r : StoreRequest} (h : Reaches outcome (form r) status body c.endpoints) :
    c.ask outcome r = reply r (readAnswer status body (form r).key) := by
  unfold StoreClient.ask StoreClient.perform StoreClient.node
  rw [Program.run_bind, h.tryEach]
  rfl

end StoreClient

namespace KeyTree

variable {t : KeyTree} {key : String}

/-- What a directory holds over the network are its files in memory, in some order. -/
lemma childValues_perm {names : List String} (distinct : names.Nodup)
    (complete : ∀ name, name ∈ names ↔ name ∈ t.childNames key) :
    (t.directoryNode key names).childValues.Perm ((t.files key).map (·.2)) := by
  have values : (t.directoryNode key names).childValues =
      (names.filterMap fun n => (t.get? (childKey key n)).map fun v => (n.toList, v)).map (·.2) := by
    unfold StoreNode.childValues directoryNode
    rw [List.filterMap_map, List.map_filterMap]
    refine List.filterMap_congr fun n _ => ?_
    rw [Option.map_map]
    exact Option.map_id'.symm
  rw [values]
  refine List.Perm.map _ ((List.perm_ext_iff_of_nodup ?_ nodup_files).2 ?_)
  · refine distinct.filterMap fun n n' c m m' => ?_
    simp only [Option.mem_def, Option.map_eq_some_iff] at m m'
    obtain ⟨_, -, rfl⟩ := m
    obtain ⟨_, -, e⟩ := m'
    exact String.toList_inj.1 (congrArg Prod.fst e).symm
  · rintro ⟨rest, value⟩
    rw [mem_files_iff]
    simp only [List.mem_filterMap, Option.map_eq_some_iff, Prod.mk.injEq]
    constructor
    · rintro ⟨n, m, v, present, rfl, rfl⟩
      rw [String.ofList_toList]
      exact ⟨slash_not_mem_of_mem_childNames ((complete n).1 m), present⟩
    · rintro ⟨single, present⟩
      refine ⟨String.ofList rest, (complete _).2 ?_, value, present, String.toList_ofList, rfl⟩
      exact mem_childNames_of_file single (mem_childrenOf_iff.2 present)

/-- A list of values and another list of values are the same in some order, or fail in the same way. -/
def SameValues : Result (List String) → Result (List String) → Prop
  | .ok values, .ok found => values.Perm found
  | .error e, .error e' => e = e'
  | _, _ => False

/-- What the three reads of a key come to where a store in memory and a network have the same content. -/
structure ReadsAgree (t : KeyTree) (key : String) (c : StoreClient) (outcome : Message → Web.Outcome) : Prop where
  «exists» : c.ask outcome (.exists key) = (t.answer (.exists key)).1
  list : SameValues (c.ask outcome (.list key)) (t.answer (.list key)).1 ↔ t.get? key = none
  search : c.ask outcome (.search key) = (t.answer (.search key)).1 ↔
    ¬ t.HasSubdirectory key ∨ 2 ≤ (t.files key).length

section Cases

variable {c : StoreClient} {outcome : Message → Web.Outcome} {value : String} (normal : normalizeKey key = key)

/-- Each read of a key finds a node, or the error in its place. -/
structure Finds (c : StoreClient) (outcome : Message → Web.Outcome) (key : String) (n : Result StoreNode) :
    Prop where
  «exists» : c.ask outcome (.exists key) = StoreClient.reply (.exists key) n
  list : c.ask outcome (.list key) = StoreClient.reply (.list key) n
  search : c.ask outcome (.search key) = StoreClient.reply (.search key) n

include normal

lemma finds_of_reaches {status : Nat} {body : String}
    (reached : StoreClient.Reaches outcome ⟨.get, key, [], none⟩ status body c.endpoints) :
    Finds c outcome key (StoreClient.readAnswer status body key) := by
  have read : StoreClient.Reaches outcome ⟨.get, normalizeKey key, [], none⟩ status body c.endpoints := by
    rwa [normal]
  have answered (r : StoreRequest) (e : StoreClient.form r = ⟨.get, normalizeKey key, [], none⟩) :
      c.ask outcome r = StoreClient.reply r (StoreClient.readAnswer status body key) := by
    rw [StoreClient.Reaches.ask (e ▸ read), e, normal]
  exact ⟨answered _ rfl, answered _ rfl, answered _ rfl⟩

lemma answer_exists : (t.answer (.exists key)).1 = .ok (t.holds key) := by
  rw [answer, normal]

lemma readsAgree_of_file (tree : t.IsTree) (present : t.get? key = some value)
    (found : Finds c outcome key (.ok { value := some value })) : t.ReadsAgree key c outcome where
  «exists» := by
    have held : t.holds key = true := holds_iff.2 (.inl (Option.isSome_of_eq_some present))
    rw [found.«exists», answer_exists normal, held]
    rfl
  list := by
    rw [found.list, present]
    show SameValues _ (t.list key) ↔ _
    rw [list_of_nothing normal (tree.childrenOf_eq_nil present)]
    exact ⟨nofun, nofun⟩
  search := by
    rw [found.search]
    refine iff_of_true ?_ (.inl fun nested => ?_)
    · exact (search_of_get? (by rw [normal, present])).symm
    · obtain ⟨c, m, -⟩ := hasSubdirectory_iff.1 nested
      rw [tree.childrenOf_eq_nil present] at m
      cases m

lemma readsAgree_of_directory {names : List String} (present : t.holds key = true) (noFile : t.get? key = none)
    (distinct : names.Nodup) (complete : ∀ name, name ∈ names ↔ name ∈ t.childNames key)
    (found : Finds c outcome key (.ok (t.directoryNode key names))) : t.ReadsAgree key c outcome where
  «exists» := by
    rw [found.«exists», answer_exists normal, present]
    rfl
  list := by
    have nonempty : t.childrenOf key ≠ [] := (holds_iff.1 present).resolve_left (by rw [noFile]; nofun)
    rw [found.list]
    refine iff_of_true ?_ noFile
    show SameValues _ (t.list key)
    rw [list_of_directory normal nonempty]
    exact childValues_perm distinct complete
  search := by
    have single : (t.directoryNode key names).single (normalizeKey key) =
        Result.only key (t.directoryNode key names).childValues := by
      rw [normal]
      unfold StoreNode.single
      match (t.directoryNode key names).childValues with
      | [] => rfl
      | [_] => rfl
      | _ :: _ :: _ => rfl
    rw [found.search]
    show (t.directoryNode key names).single (normalizeKey key) = t.search key ↔ _
    rw [single, Result.only_congr (childValues_perm distinct complete), search_eq_only normal noFile]
    exact only_files_iff

lemma readsAgree_of_missing (absent : t.holds key = false)
    (found : Finds c outcome key (.error (.notFound key))) : t.ReadsAgree key c outcome := by
  have nothing : t.get? key = none ∧ t.childrenOf key = [] := by
    have free := mt holds_iff.2 (Bool.eq_false_iff.1 absent)
    rw [not_or, not_not, Option.not_isSome_iff_eq_none] at free
    exact free
  constructor
  · rw [found.«exists», answer_exists normal, absent]
    rfl
  · rw [found.list]
    refine iff_of_true ?_ nothing.1
    show SameValues _ (t.list key)
    rw [list_of_nothing normal nothing.2]
    rfl
  · rw [found.search]
    refine iff_of_true ?_ (.inl fun nested => ?_)
    · show _ = t.search key
      rw [search_eq_only normal nothing.1, nothing.2]
      rfl
    · obtain ⟨c, m, -⟩ := hasSubdirectory_iff.1 nested
      rw [nothing.2] at m
      cases m

end Cases

end KeyTree

end Network

section Samples

/-- A client that has to go to its second endpoint. -/
def StoreClient.sample : StoreClient where
  endpoints := [9999, 2379].map fun port =>
    ⟨"http", some ⟨"", none, .v4 0x7F000001, some port⟩, .segments [""], none, none⟩

/-- The answer that holds a node. -/
def StoreClient.answerOf (node : Json) : String := (Json.obj [("action", .str "get"), ("node", node)]).toText

/-- A network in which the second endpoint answers every message about the node of a key. -/
def StoreClient.answering (node : Json) (m : Message) : Web.Outcome :=
  if m.url.authority.any fun a => a.port == some 2379 then .answer 200 (some (answerOf node))
  else .unreachable

open KeyTree

lemma StoreClient.reaches_sample {f : Form} {node : Json} :
    Reaches (answering node) f 200 (answerOf node) sample.endpoints :=
  .later rfl rfl rfl (.here rfl rfl rfl)

/-- A text that is written from a node is read as an answer with that node. -/
lemma KeyTree.isSuccess_answerOf {node : Json} (plain : node.Plain) :
    IsSuccess 200 (StoreClient.answerOf node) node where
  status := rfl
  read := by
    have distinct : ["action", "node"].Nodup := by decide
    exact ⟨_, Json.parse?_toText ⟨trivial, plain, trivial⟩, ⟨_, rfl, distinct⟩, rfl⟩

/-- A directory as it is listed in another. -/
def KeyTree.listedDirectory (key : String) : Json := .obj [("key", .str key), ("dir", .bool true)]

/-- A file as it is listed in its directory. -/
def KeyTree.listedFile (key value : String) : Json := .obj [("key", .str key), ("value", .str value)]

lemma KeyTree.lists_listedDirectory {t : KeyTree} {key path : String} (h : t.get? key = none) :
    t.Lists key (listedDirectory path) := by
  have distinct : ["key", "dir"].Nodup := by decide
  unfold KeyTree.Lists
  rw [h]
  exact ⟨⟨⟨_, rfl, distinct⟩, rfl, rfl⟩, rfl⟩

lemma KeyTree.lists_listedFile {t : KeyTree} {key path value : String} (h : t.get? key = some value) :
    t.Lists key (listedFile path value) := by
  have distinct : ["key", "value"].Nodup := by decide
  unfold KeyTree.Lists
  rw [h]
  exact ⟨⟨_, rfl, distinct⟩, rfl, rfl, rfl⟩

/-- A directory with the nodes that are listed in it. -/
def KeyTree.directoryOf (key : String) (children : List (String × Json)) : Json :=
  .obj [("key", .str key), ("dir", .bool true), ("nodes", .arr (children.map (·.2)))]

lemma KeyTree.showsDirectory_directoryOf {t : KeyTree} {key path : String} {children : List (String × Json)}
    (distinct : (children.map (·.1)).Nodup)
    (complete : (children.map (·.1)).Perm (t.childNames key))
    (listed : ∀ c ∈ children, t.Lists (childKey key c.1) c.2) :
    t.ShowsDirectory key (directoryOf path children) children where
  directory := by
    have distinct : ["key", "dir", "nodes"].Nodup := by decide
    exact ⟨⟨_, rfl, distinct⟩, rfl, rfl⟩
  nodes := rfl
  distinct := distinct
  complete _ := complete.mem_iff
  listed m := listed _ m

lemma KeyTree.isServed_directoryOf {t : KeyTree} {key path : String} {children : List (String × Json)}
    (plain : (directoryOf path children).Plain) (present : t.holds key = true) (noFile : t.get? key = none)
    (distinct : (children.map (·.1)).Nodup) (complete : (children.map (·.1)).Perm (t.childNames key))
    (listed : ∀ c ∈ children, t.Lists (childKey key c.1) c.2) :
    StoreClient.sample.IsServed (StoreClient.answering (directoryOf path children)) t key :=
  ⟨_, _, StoreClient.reaches_sample, .directory (isSuccess_answerOf plain) present noFile
    (showsDirectory_directoryOf distinct complete listed)⟩

end Samples

/-- A client reads a tree from the network as a store in memory with the same content: whether there is a
key, the values of a directory, and the one value of a key. But a list of a file's values is empty over the
network and not found in memory, and a search differs where a directory has values further below and fewer
than two directly below it. -/
theorem KeyTree.reads_agree {t : KeyTree} (tree : t.IsTree) {key : String} (normal : normalizeKey key = key)
    (_ : key ≠ "") {c : StoreClient} {outcome : Message → Web.Outcome} (served : c.IsServed outcome t key) :
    t.ReadsAgree key c outcome := by
  obtain ⟨status, body, reached, answers⟩ := served
  have found := finds_of_reaches normal reached
  cases answers with
  | file success present shown =>
    rw [success.readAnswer shown.record shown.ofJsonWithin?] at found
    exact readsAgree_of_file normal tree present found
  | directory success present noFile shown =>
    rw [success.readAnswer shown.directory.record shown.ofJson?] at found
    exact readsAgree_of_directory normal present noFile shown.distinct shown.complete found
  | missing failure absent =>
    rw [failure.readAnswer] at found
    exact readsAgree_of_missing normal absent found

/-- Values in a directory and further below it. -/
def KeyTree.branched : KeyTree := .ofList [("a/b/c", "1"), ("a/x", "2"), ("a/y", "3")]

/-- The directory at the root of that content, its children in another order. -/
def KeyTree.branchedChildren : List (String × Json) :=
  [("y", listedFile "/a/y" "3"), ("b", listedDirectory "/a/b"), ("x", listedFile "/a/x" "2")]

/-- With two values in the directory a search finds several, in memory and over the network. -/
theorem KeyTree.reads_agree_branched :
    branched.IsTree ∧ normalizeKey "a" = "a" ∧ "a" ≠ "" ∧
    StoreClient.sample.IsServed (StoreClient.answering (directoryOf "/a" branchedChildren)) branched "a" ∧
    branched.HasSubdirectory "a" ∧ (branched.answer (.search "a")).1 = .error (.multipleValues "a") ∧
    StoreClient.sample.ask (StoreClient.answering (directoryOf "/a" branchedChildren)) (.search "a") =
      .error (.multipleValues "a") := by
  have tree : branched.IsTree := .of_entries (by decide)
  have served : StoreClient.sample.IsServed (StoreClient.answering (directoryOf "/a" branchedChildren))
      branched "a" := by
    refine isServed_directoryOf ?_ (by decide) (by decide) (by decide) (by decide) fun c m => ?_
    · exact ⟨trivial, trivial, ⟨⟨trivial, trivial, trivial⟩, ⟨trivial, trivial, trivial⟩,
        ⟨trivial, trivial, trivial⟩, trivial⟩, trivial⟩
    · obtain rfl | rfl | rfl : c = _ ∨ c = _ ∨ c = _ := by simpa [branchedChildren] using m
      · exact lists_listedFile (by decide)
      · exact lists_listedDirectory (by decide)
      · exact lists_listedFile (by decide)
  have agree := reads_agree tree (by decide) (by decide) served
  have several : (branched.answer (.search "a")).1 = .error (.multipleValues "a") := by decide
  refine ⟨tree, by decide, by decide, served, ?_, several, ?_⟩
  · exact ⟨"a/b/c", ['b', '/', 'c'], by decide, by decide, by decide⟩
  · rw [agree.search.2 (.inr (by decide)), several]

/-- One value, two directories deep. -/
def KeyTree.nested : KeyTree := .insert .empty "a/b/c" "1"

/-- The directory at the root of that content. -/
def KeyTree.nestedChildren : List (String × Json) := [("b", listedDirectory "/a/b")]

/-- In memory a search finds the one value below a directory, however deep. Over the network there is none
directly below it. -/
theorem KeyTree.search_nested_differs :
    nested.IsTree ∧ normalizeKey "a" = "a" ∧
    StoreClient.sample.IsServed (StoreClient.answering (directoryOf "/a" nestedChildren)) nested "a" ∧
    (nested.answer (.search "a")).1 = .ok "1" ∧
    StoreClient.sample.ask (StoreClient.answering (directoryOf "/a" nestedChildren)) (.search "a") =
      .error (.notFound "a") := by
  have plain : (directoryOf "/a" nestedChildren).Plain :=
    ⟨trivial, trivial, ⟨⟨trivial, trivial, trivial⟩, trivial⟩, trivial⟩
  have listed : ∀ c ∈ nestedChildren, nested.Lists (childKey "a" c.1) c.2 := by
    intro c m
    obtain rfl := List.mem_singleton.1 m
    exact lists_listedDirectory (by decide)
  have shown : nested.ShowsDirectory "a" (directoryOf "/a" nestedChildren) nestedChildren :=
    showsDirectory_directoryOf (by decide) (by decide) listed
  have reached : StoreClient.Reaches (StoreClient.answering (directoryOf "/a" nestedChildren))
      ⟨.get, "a", [], none⟩ 200 _ StoreClient.sample.endpoints := StoreClient.reaches_sample
  have found := finds_of_reaches (by decide) reached
  rw [(isSuccess_answerOf plain).readAnswer shown.directory.record shown.ofJson?] at found
  exact ⟨.of_entries (by decide), by decide, isServed_directoryOf plain (by decide) (by decide) (by decide)
    (by decide) listed, by decide, found.search.trans (by decide)⟩

end TenantOverlay
