import Launchpad.Machine.Process

/-!
Redirections: what a descriptor leads to is changed for one command, or for the shell from then on.
-/

namespace Launchpad.Machine.Shell

open Script (RedirectKind)

/-- The reason why a file cannot be opened, in the words of a shell. -/
def openFailure (missing : Octets) (number : Errno) : Octets :=
  if number = .noEntry || number = .notDirectory then missing else number.text

/-- Open what redirections ask for one after the other, and answer the descriptors that they make. A
redirection that fails is reported where messages go by then. -/
def redirect (descriptors : Descriptors) :
    List (Nat × RedirectKind × Octets) → Step Descriptors
  | [] => return descriptors
  | (descriptor, kind, target) :: rest => do
    let attach (how : Opening) (describe : Errno → Octets) : Step Descriptors := do
      let r ← get
      match r.session.openFile descriptors (Octets.path target) how
          (0o666 &&& (0o777 ^^^ r.shell.umask)) with
      | .ok (channel, session) =>
        set { r with session := session }
        redirect ((descriptor, channel) :: descriptors) rest
      | .error number => Step.withDescriptors descriptors (Step.fail (describe number))
    let created (number : Errno) : Octets :=
      "cannot create " ++ target ++ ": " ++ openFailure "Directory nonexistent" number
    match kind with
    | .read => attach .reading fun number =>
        "cannot open " ++ target ++ ": " ++ openFailure "No such file" number
    | .write force =>
      let spares := (← Step.shell).isOn 'C' && !force
      attach { Opening.writing with fresh := spares } created
    | .append => attach .appending created
    | .both => attach .both created
    | .duplicate =>
      if target = "-" then redirect (descriptors.filter (·.1 ≠ descriptor)) rest
      else
        let digit? : Option Nat := match target.toList with
          | [c] => if c.isDigit then some (c.toNat - '0'.toNat) else none
          | _ => none
        match digit?.map (List.lookup · descriptors) with
        | none => Step.fail "Syntax error: Bad fd number"
        | some (some channel) => redirect ((descriptor, channel) :: descriptors) rest
        | some none =>
          Step.withDescriptors descriptors
            (Step.fail (target ++ ": " ++ Errno.badDescriptor.text))
    | .document _ =>
      let r ← get
      let (channel, session) := r.session.addChannel (.buffer (Octets.array target))
      set { r with session := session }
      redirect ((descriptor, channel) :: descriptors) rest

end Launchpad.Machine.Shell
