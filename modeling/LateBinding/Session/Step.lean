import LateBinding.Object

/-!
# Scripted steps

A script exercises images step by step. A step acts on one image. It names classes and
selectors by query, so that a script can be written before the classes exist: a class
query is answered when the step runs, and a selector query may intern a new signature.

Most steps are single requests. Two contain steps of their own: a synchronized block,
and the installation of a handler for messages that no class implements.
-/

namespace LateBinding

/-- A class by name and side, in an image that need not be the acting one. -/
structure ClassQuery where
  image : ImageId
  name : String
  side : Side
deriving DecidableEq

/-- A selector: interned in an image, or given as a number from somewhere else. -/
inductive SelectorQuery where
  | intern (image : ImageId) (signature : Signature)
  | number (selector : Selector)
deriving DecidableEq

/-- The object of a synchronized section: an address, or a class object. -/
inductive ObjectQuery where
  | address (address : Nat)
  | classObject (query : ClassQuery)
deriving DecidableEq

/-- A single request to an image. -/
inductive Request where
  | registerClass (decl : ClassDecl)
  | registerCategory (decl : CategoryDecl)
  | loadModule (decl : ModuleDecl)
  | registerSelector (signature : Signature)
  | replaceMethod (target : ClassQuery) (selector : SelectorQuery) (imp : Imp)
  /-- Finds an implementation. -/
  | dispatch (target : ClassQuery) (selector : SelectorQuery)
  /-- Finds an implementation or goes to the handler. -/
  | lookupOrForward (target : ClassQuery) (selector : SelectorQuery)
  /-- Finds an implementation or goes to the handler, and calls what is found. -/
  | send (target : ClassQuery) (selector : SelectorQuery)
  /-- Sends from a number of new threads, one after the other. -/
  | sendFromThreads (target : ClassQuery) (selector : SelectorQuery) (threads : Nat)
  | respondsTo (target : ClassQuery) (selector : SelectorQuery)
  /-- Prepares a class for its first message without sending one. -/
  | prepare (target : ClassQuery)
  | resetForward
  | lookupClass (name : String)
  | getClass (target : ClassQuery)
  | classes
  | categories (target : ClassQuery)
  | waitingCategories (name : String)
  | sameCategories (target other : ClassQuery)
  | superclasses (target : ClassQuery)
  | isSubclass (target other : ClassQuery)
  | sameClass (target other : ClassQuery)
  | table (target : ClassQuery)
  /-- Keeps the published table of a side under a name. -/
  | keepTable (target : ClassQuery) (key : String)
  | readTable (key : String)
  | findSelector (signature : Signature)
  | resolveSelector (selector : SelectorQuery)
  | selectorName (selector : SelectorQuery)
  | selectorStatistics
  | describeClass (target : ClassQuery)
  | describeImage
  | describeMethods (target : ClassQuery)
  | enterSection (object : ObjectQuery)
  /-- Leaves a section, possibly on a new thread. -/
  | leaveSection (object : ObjectQuery) (elsewhere : Bool)
  | dump
deriving DecidableEq

/-- A step of a script. -/
inductive Step where
  | request (image : ImageId) (request : Request)
  /-- Runs steps inside a section. -/
  | synchronized (image : ImageId) (object : ObjectQuery) (body : List Step)
  /-- Installs the handler: what it does first, whether it then looks for the message
      again, and which implementation it falls back to. -/
  | setForward (image : ImageId) (imp : Imp) (actions : List Step) (again : Bool)

/-- The image a step acts on. -/
def Step.image : Step → ImageId
  | .request image _ => image
  | .synchronized image _ _ => image
  | .setForward image _ _ _ => image

/-- What is done with messages that no class implements. -/
structure Handler where
  imp : Imp
  actions : List Step
  again : Bool

end LateBinding
