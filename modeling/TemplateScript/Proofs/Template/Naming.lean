import TemplateScript.Template.Basic

/-!
Which trees a parser yields.

A tree arrives as a document, so its parts can hold anything. What a parser of templates promises
is stated here, as tests that can be computed: how variables are spelled, that a field has at least
one name, and that the pipeline handed to another template declares nothing.
-/
namespace TemplateScript

def Variable.named (names : String → Bool) (var : Variable) : Bool :=
  match var.ident with
  | [] => true
  | first :: _ => names first

mutual

/-- Every variable in the argument is spelled as asked. -/
def Arg.named (names : String → Bool) : Arg → Bool
  | .var reading => reading.named names
  | .pipe inner => inner.named names
  | .number _ _ | .string _ _ | .bool _ _ | .dot _ | .field _ _ | .identifier _ _ => true

def Arg.namedAll (names : String → Bool) : List Arg → Bool
  | [] => true
  | arg :: rest => arg.named names && Arg.namedAll names rest

def Command.named (names : String → Bool) : Command → Bool
  | ⟨_, args⟩ => Arg.namedAll names args

def Command.namedAll (names : String → Bool) : List Command → Bool
  | [] => true
  | command :: rest => command.named names && Command.namedAll names rest

def Pipe.named (names : String → Bool) : Pipe → Bool
  | ⟨_, _, targets, commands⟩ =>
      targets.all (Variable.named names) && Command.namedAll names commands

end

mutual

def Node.named (names : String → Bool) : Node → Bool
  | .text _ _ | .comment _ _ | .template _ _ none => true
  | .action _ pipe | .template _ _ (some pipe) => pipe.named names
  | .branch _ _ pipe body none => pipe.named names && body.named names
  | .branch _ _ pipe body (some otherwise) =>
      pipe.named names && body.named names && otherwise.named names

def Node.namedAll (names : String → Bool) : List Node → Bool
  | [] => true
  | node :: rest => node.named names && Node.namedAll names rest

def Block.named (names : String → Bool) : Block → Bool
  | ⟨_, nodes⟩ => Node.namedAll names nodes

end

def Tree.named (names : String → Bool) (tree : Tree) : Bool :=
  tree.root.named names

abbrev anyName : String → Bool := fun _ => true

theorem Variable.named_any (var : Variable) : var.named anyName = true := by
  unfold Variable.named
  split <;> rfl

mutual

theorem Arg.named_any : (arg : Arg) → arg.named anyName = true
  | .number _ _ | .string _ _ | .bool _ _ | .dot _ | .field _ _ | .identifier _ _ => rfl
  | .var reading => reading.named_any
  | .pipe inner => inner.named_any

theorem Arg.named_all_any : (args : List Arg) → Arg.namedAll anyName args = true
  | [] => rfl
  | arg :: rest => by rw [Arg.namedAll, arg.named_any, Arg.named_all_any rest, Bool.true_and]

theorem Command.named_all_any : (commands : List Command) →
    Command.namedAll anyName commands = true
  | [] => rfl
  | ⟨_, args⟩ :: rest => by
      rw [Command.namedAll, Command.named, Arg.named_all_any args, Command.named_all_any rest,
        Bool.true_and]

theorem Pipe.named_any : (pipe : Pipe) → pipe.named anyName = true
  | ⟨_, _, targets, commands⟩ => by
      have all : targets.all (Variable.named anyName) = true :=
        List.all_eq_true.mpr fun target _ => target.named_any
      rw [Pipe.named, all, Command.named_all_any commands, Bool.true_and]

end

mutual

theorem Node.named_any : (node : Node) → node.named anyName = true
  | .text _ _ | .comment _ _ | .template _ _ none => rfl
  | .action _ pipe | .template _ _ (some pipe) => pipe.named_any
  | .branch _ _ pipe body none => by rw [Node.named, pipe.named_any, body.named_any, Bool.true_and]
  | .branch _ _ pipe body (some otherwise) => by
      rw [Node.named, pipe.named_any, body.named_any, otherwise.named_any, Bool.true_and,
        Bool.true_and]

theorem Node.named_all_any : (nodes : List Node) → Node.namedAll anyName nodes = true
  | [] => rfl
  | node :: rest => by rw [Node.namedAll, node.named_any, Node.named_all_any rest, Bool.true_and]

theorem Block.named_any : (block : Block) → block.named anyName = true
  | ⟨_, nodes⟩ => Node.named_all_any nodes

end

theorem Tree.named_any (tree : Tree) : tree.named anyName = true :=
  tree.root.named_any

mutual

/-- Every field in the argument has at least one name. -/
def Arg.fielded : Arg → Bool
  | .field _ ident => !ident.isEmpty
  | .pipe inner => inner.fielded
  | .number _ _ | .string _ _ | .bool _ _ | .dot _ | .identifier _ _ | .var _ => true

def Arg.fieldedAll : List Arg → Bool
  | [] => true
  | arg :: rest => arg.fielded && Arg.fieldedAll rest

def Command.fielded : Command → Bool
  | ⟨_, args⟩ => Arg.fieldedAll args

def Command.fieldedAll : List Command → Bool
  | [] => true
  | command :: rest => command.fielded && Command.fieldedAll rest

def Pipe.fielded : Pipe → Bool
  | ⟨_, _, _, commands⟩ => Command.fieldedAll commands

end

mutual

/-- Fields have names, and what is handed to other templates declares nothing. -/
def Node.parsed : Node → Bool
  | .text _ _ | .comment _ _ | .template _ _ none => true
  | .action _ pipe => pipe.fielded
  | .template _ _ (some pipe) => pipe.fielded && pipe.targets.isEmpty
  | .branch _ _ pipe body none => pipe.fielded && body.parsed
  | .branch _ _ pipe body (some otherwise) => pipe.fielded && body.parsed && otherwise.parsed

def Node.parsedAll : List Node → Bool
  | [] => true
  | node :: rest => node.parsed && Node.parsedAll rest

def Block.parsed : Block → Bool
  | ⟨_, nodes⟩ => Node.parsedAll nodes

end

def Tree.parsed (tree : Tree) : Bool :=
  tree.root.parsed

theorem targets_named {names : String → Bool} {pipe : Pipe} (named : pipe.named names = true) :
    ∀ target ∈ pipe.targets, target.named names = true := by
  obtain ⟨pos, assigns, targets, commands⟩ := pipe
  simp only [Pipe.named, Bool.and_eq_true, List.all_eq_true] at named
  exact named.1

end TemplateScript
