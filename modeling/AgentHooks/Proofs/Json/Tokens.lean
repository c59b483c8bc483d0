import AgentHooks.Json.Reader

/-! The tokens that a document is written in, and the reader that puts them together again. The stack of
open containers is never looked into below its top, so what is read depends on it by its depth alone. -/

namespace AgentHooks.Json

mutual

def tokens : Json → List Token
  | array items => .arrayOpen :: itemTokens items ++ [.arrayClose]
  | object members => .objectOpen :: memberTokens members ++ [.objectClose]
  | string s => [.text (some s)]
  | other => [.atom other]

def itemTokens : List Json → List Token
  | [] => []
  | [item] => item.tokens
  | item :: rest => item.tokens ++ .comma :: itemTokens rest

def memberTokens : List (String × Json) → List Token
  | [] => []
  | [(name, value)] => .text (some name) :: .colon :: value.tokens
  | (name, value) :: rest =>
    .text (some name) :: .colon :: value.tokens ++ .comma :: memberTokens rest

end

mutual

def nesting : Json → Nat
  | array items => itemNesting items + 1
  | object members => memberNesting members + 1
  | _ => 0

def itemNesting : List Json → Nat
  | [] => 0
  | item :: rest => max item.nesting (itemNesting rest)

def memberNesting : List (String × Json) → Nat
  | [] => 0
  | (_, value) :: rest => max value.nesting (memberNesting rest)

end

mutual

/-- A document of which `level` containers are open around it, as it is read: containers that lie too deep have no
value. -/
def cut (level : Nat) : Json → Json
  | array items => if level < maxDepth then array (cutItems (level + 1) items) else unreadable
  | object members => if level < maxDepth then object (cutMembers (level + 1) members) else unreadable
  | other => other

def cutItems (level : Nat) : List Json → List Json
  | [] => []
  | item :: rest => item.cut level :: cutItems level rest

def cutMembers (level : Nat) : List (String × Json) → List (String × Json)
  | [] => []
  | (name, value) :: rest => (name, value.cut level) :: cutMembers level rest

end

mutual

theorem cut_of_room (j : Json) (level : Nat) (room : level + j.nesting ≤ maxDepth) : j.cut level = j := by
  match j with
  | array items =>
    simp only [nesting] at room
    rw [cut, if_pos (by omega), cutItems_of_room items (level + 1) (by omega)]
  | object members =>
    simp only [nesting] at room
    rw [cut, if_pos (by omega), cutMembers_of_room members (level + 1) (by omega)]
  | null | bool _ | int _ | float _ | string _ | unreadable => rfl

theorem cutItems_of_room (items : List Json) (level : Nat) (room : level + itemNesting items ≤ maxDepth) :
    cutItems level items = items := by
  match items with
  | [] => rfl
  | item :: rest =>
    simp only [itemNesting] at room
    rw [cutItems, cut_of_room item level (by omega), cutItems_of_room rest level (by omega)]

theorem cutMembers_of_room (members : List (String × Json)) (level : Nat)
    (room : level + memberNesting members ≤ maxDepth) : cutMembers level members = members := by
  match members with
  | [] => rfl
  | (name, value) :: rest =>
    simp only [memberNesting] at room
    rw [cutMembers, cut_of_room value level (by omega), cutMembers_of_room rest level (by omega)]

end

theorem readNames_some (members : List (String × Json)) :
    readNames (members.map fun m => (some m.1, m.2)) = some members := by
  induction members with
  | nil => rfl
  | cons member rest ih => simp only [List.map_cons, readNames, ih, Option.map_some]

namespace Reading

theorem foldlM_single (r : Reading) (t : Token) : [t].foldlM step r = step r t := by
  simp only [List.foldlM_cons, List.foldlM_nil, bind_pure]

theorem foldlM_firstItem (j : Json) (more : List Token) (stack : List Frame) :
    (j.tokens ++ more).foldlM step (going stack .firstItem) =
      (j.tokens ++ more).foldlM step (going stack .value) := by
  cases j <;> rfl

theorem foldlM_itemTokens_first (item : Json) (rest : List Json) (more : List Token)
    (stack : List Frame) :
    (itemTokens (item :: rest) ++ more).foldlM step (going stack .firstItem) =
      (itemTokens (item :: rest) ++ more).foldlM step (going stack .value) := by
  cases rest with
  | nil => exact foldlM_firstItem item more stack
  | cons next others =>
    simp only [itemTokens, List.append_assoc]
    exact foldlM_firstItem item _ stack

theorem foldlM_memberTokens_first (member : String × Json) (rest : List (String × Json))
    (more : List Token) (stack : List Frame) :
    (memberTokens (member :: rest) ++ more).foldlM step (going stack .firstName) =
      (memberTokens (member :: rest) ++ more).foldlM step (going stack .name) := by
  cases rest <;> rfl

theorem depth_inside {frame : Frame} (container : frame.isContainer = true) (stack : List Frame) :
    depth (frame :: stack) = depth stack + 1 := by
  simp only [depth, List.countP_cons, container, if_true]

theorem depth_member (name : Option String) (stack : List Frame) : depth (.member name :: stack) = depth stack := by
  simp only [depth, List.countP_cons, Frame.isContainer, Bool.false_eq_true, if_false, Nat.add_zero]

mutual

/-- Reading a document's tokens gives the document to the container on top of the stack. -/
theorem foldlM_tokens (j : Json) (stack : List Frame) :
    j.tokens.foldlM step (going stack .value) = give (j.cut (depth stack)) stack := by
  match j with
  | array [] =>
    change [Token.arrayClose].foldlM step (going (.array [] :: stack) .firstItem) = _
    rw [foldlM_single]
    rfl
  | array (item :: rest) =>
    change (itemTokens (item :: rest) ++ [Token.arrayClose]).foldlM step
      (going (.array [] :: stack) .firstItem) = _
    rw [foldlM_itemTokens_first, List.foldlM_append, foldlM_itemTokens (item :: rest) [] stack (by simp)]
    change [Token.arrayClose].foldlM step _ = _
    rw [foldlM_single, List.append_nil]
    simp only [step, closeArray, List.reverse_reverse]
    rfl
  | object [] =>
    change [Token.objectClose].foldlM step (going (.object [] :: stack) .firstName) = _
    rw [foldlM_single]
    rfl
  | object (member :: rest) =>
    change (memberTokens (member :: rest) ++ [Token.objectClose]).foldlM step
      (going (.object [] :: stack) .firstName) = _
    rw [foldlM_memberTokens_first, List.foldlM_append, foldlM_memberTokens (member :: rest) [] stack (by simp)]
    change [Token.objectClose].foldlM step _ = _
    rw [foldlM_single, List.append_nil]
    simp only [step, closeObject, List.reverse_reverse, readNames_some]
    rfl
  | string s => exact foldlM_single _ _
  | null => exact foldlM_single _ _
  | bool b => exact foldlM_single _ _
  | int n => exact foldlM_single _ _
  | float x => exact foldlM_single _ _
  | unreadable => exact foldlM_single _ _

theorem foldlM_itemTokens (items read : List Json) (stack : List Frame) (filled : items ≠ []) :
    (itemTokens items).foldlM step (going (.array read :: stack) .value) =
      some (going (.array ((cutItems (depth stack + 1) items).reverse ++ read) :: stack) .separator) := by
  match items with
  | [] => exact absurd rfl filled
  | [item] =>
    rw [itemTokens, foldlM_tokens, depth_inside rfl]
    rfl
  | item :: next :: others =>
    have later := foldlM_itemTokens (next :: others) (item.cut (depth stack + 1) :: read) stack (by simp)
    rw [itemTokens, List.foldlM_append, foldlM_tokens, depth_inside rfl]
    · change (itemTokens (next :: others)).foldlM step
        (going (.array (item.cut (depth stack + 1) :: read) :: stack) .value) = _
      rw [later]
      simp only [cutItems, List.reverse_cons, List.append_assoc, List.cons_append, List.nil_append]
    · exact List.cons_ne_nil _ _

theorem foldlM_memberTokens (members : List (String × Json)) (read : List (Option String × Json))
    (stack : List Frame) (filled : members ≠ []) :
    (memberTokens members).foldlM step (going (.object read :: stack) .name) =
      some (going (.object (((cutMembers (depth stack + 1) members).map fun m => (some m.1, m.2)).reverse ++ read) ::
        stack) .separator) := by
  match members with
  | [] => exact absurd rfl filled
  | [(name, value)] =>
    change value.tokens.foldlM step (going (.member (some name) :: .object read :: stack) .value) = _
    rw [foldlM_tokens, depth_member, depth_inside rfl]
    rfl
  | (name, value) :: next :: others =>
    have later := foldlM_memberTokens (next :: others) ((some name, value.cut (depth stack + 1)) :: read) stack
      (by simp)
    change (value.tokens ++ .comma :: memberTokens (next :: others)).foldlM step
      (going (.member (some name) :: .object read :: stack) .value) = _
    rw [List.foldlM_append, foldlM_tokens, depth_member, depth_inside rfl]
    change (memberTokens (next :: others)).foldlM step
      (going (.object ((some name, value.cut (depth stack + 1)) :: read) :: stack) .name) = _
    rw [later]
    simp only [cutMembers, List.map_cons, List.reverse_cons, List.append_assoc, List.cons_append, List.nil_append]

end

end Reading

/-- A document is read from its tokens, but for containers that lie too deep inside each other. -/
theorem ofTokens?_tokens (j : Json) : ofTokens? j.tokens = some (j.cut 0) := by
  rw [ofTokens?, Reading.start, Reading.foldlM_tokens]
  rfl

end AgentHooks.Json
