import Entitlement.Proofs.Packages.Commands
import Entitlement.Proofs.Server.Sending
import Entitlement.Registration.Collaborators
import Entitlement.Settings.File

-- How far the collaborators of a registration reach. The store keeps to files, the server sends requests besides, and
-- only the package manager runs commands.
namespace Entitlement

open Host

section Covers

variable {holds : List Event → Prop} {path : String} {login password : String}

namespace CredentialStore

variable {s : CredentialStore}

theorem makes_writeSystem (covers : Covers holds) {credentials : Credentials} : Makes holds (s.writeSystem credentials) :=
  covers.note (covers.writes _ _)

theorem makes_updateToken (covers : Covers holds) {token : String} : Makes holds (s.updateToken token) := by
  refine covers.bind (covers.peeking peeks_readFile) fun credentials => ?_
  split
  · exact makes_pure covers.composes
  · exact makes_writeSystem covers

theorem makes_writeService (covers : Covers holds) {service : String} : Makes holds (s.writeService service) :=
  covers.bind (covers.peeking peeks_readFile) fun _ => covers.note (covers.writes _ _)

theorem makes_addTo (covers : Covers holds) : Makes holds (RegistryLogin.addTo path login password) := by
  refine covers.bind (covers.peeking peeks_load) fun config => ?_
  refine covers.bind (makes_liftExcept covers.composes) fun changed => ?_
  cases changed with
  | some config => exact covers.writes _ _
  | none => exact covers.peeking (asks_lift (confined_ask trivial))

theorem makes_removeFrom (covers : Covers holds) : Makes holds (RegistryLogin.removeFrom path login password) := by
  refine covers.bind (covers.peeking peeks_load) fun config => ?_
  cases config with
  | none => exact makes_pure covers.composes
  | some config =>
    refine covers.bind (makes_liftExcept covers.composes) fun changed => ?_
    cases changed with
    | some config => exact covers.bind (covers.writes _ _) fun _ => makes_pure covers.composes
    | none => exact makes_pure covers.composes

theorem makes_perform (covers : Covers holds) (call : Registration.StoreCall) : Makes holds (s.perform call) := by
  cases call with
  | systemCredentials => exact covers.peeking peeks_readFile
  | writeSystem credentials => exact makes_writeSystem covers
  | removeSystem => exact covers.removes _
  | writeService service => exact makes_writeService covers
  | removeService service => exact covers.removes _
  | addRegistryLogin credentials => exact makes_forM covers.composes fun _ => makes_addTo covers
  | removeRegistryLogin credentials =>
    exact makes_forM covers.composes fun _ => covers.bind (makes_removeFrom covers) fun _ => makes_pure covers.composes

theorem peeks_hasSystem : Program.Confined Peeks s.hasSystem := by
  refine Program.confined_bind peeks_readFile fun reply => ?_
  cases reply with
  | ok credentials => exact Program.confined_done
  | error error => exact Program.confined_done

end CredentialStore

namespace Server

variable {s : Server} {method : Http.Method} {authentication : Authentication}
  {pairs : List (String × String)} {body : Option String}

theorem rows_keepToken (covers : Covers holds) {response : Http.Response} : Rows holds (s.keepToken response) := by
  unfold keepToken
  cases newToken? response with
  | none => exact rows_done covers.composes
  | some token =>
    refine rows_bind covers.composes (CredentialStore.makes_updateToken covers) fun reply => ?_
    cases reply with
    | ok value => exact rows_done covers.composes
    | error error => exact covers.look trivial

-- A server is a store besides that sends requests.
variable (covers : Covers holds) (exchanges : ∀ exchange, Rows holds (ask (.exchange exchange)))
include covers exchanges

theorem makes_send : Makes holds (s.send method path authentication pairs body) := by
  have composes := covers.composes
  refine covers.bind (makes_liftExcept composes) fun url => covers.note ?_
  refine covers.bind (covers.peeking peeks_headersFor) fun headers => covers.bind (makes_liftExcept composes) fun _ => ?_
  refine covers.bind (makes_lift composes (exchanges _)) fun answer => ?_
  cases answer with
  | none => exact makes_throw composes
  | some response =>
    refine covers.bind (makes_lift composes (rows_keepToken covers)) fun _ => ?_
    split
    · exact makes_throw composes
    split
    · exact makes_pure composes
    · exact makes_throw composes

theorem makes_perform (call : Registration.ServerCall) : Makes holds (s.perform call) := by
  have sends {method path authentication pairs body} : Makes holds (s.send method path authentication pairs body) :=
    makes_send covers exchanges
  cases call with
  | updateSystem info => exact covers.bind sends fun _ => makes_pure covers.composes
  | deregister => exact covers.bind sends fun _ => makes_pure covers.composes
  | _ => exact covers.bind sends fun _ => makes_liftExcept covers.composes

end Server

end Covers

namespace Http.Route

theorem peeks_firstSet {names : List String} : Program.Confined Peeks (firstSet names) := by
  induction names with
  | nil => exact Program.confined_done
  | cons name rest ih =>
    refine Program.confined_bind (confined_ask trivial) fun value => ?_
    cases value with
    | none => exact ih
    | some value => exact Program.confined_done

theorem peeks_home : Program.Confined Peeks home := by
  refine Program.confined_bind (confined_ask trivial) fun value => ?_
  split
  · exact confined_ask trivial
  · exact confined_ask trivial
  · exact Program.confined_done

theorem peeks_ofFile {path : String} : Asks Peeks (ProxyLogin.ofFile path) := by
  refine asks_bind (asks_orFail (confined_readText trivial)) fun text => ?_
  split
  · exact asks_pure
  · exact asks_throw

theorem peeks_withLogin : Program.Confined Peeks withLogin := by
  refine Program.confined_bind peeks_firstSet fun address => ?_
  cases address with
  | none => exact Program.confined_done
  | some address =>
    dsimp only
    split
    · exact Program.confined_done
    have path : Program.Confined Peeks ProxyLogin.defaultPath :=
      Program.confined_bind peeks_home fun _ => Program.confined_done
    refine Program.confined_bind path fun path => ?_
    cases path with
    | none => exact Program.confined_done
    | some path =>
      refine Program.confined_bind (confined_ask trivial) fun there => ?_
      split
      · refine Program.confined_bind peeks_ofFile fun login => ?_
        cases login with
        | error error => exact Program.confined_bind (confined_ask trivial) fun _ => Program.confined_done
        | ok login =>
          dsimp only
          split
          · exact Program.confined_done
          · exact Program.confined_bind (confined_ask trivial) fun _ => Program.confined_done
      · exact Program.confined_done

theorem peeks_choose : Program.Confined Peeks choose := by
  refine Program.confined_bind (confined_ask trivial) fun enabled => ?_
  split
  · refine Program.confined_bind peeks_withLogin fun proxy => ?_
    cases proxy with
    | some proxy => exact Program.confined_done
    | none =>
      refine Program.confined_bind peeks_firstSet fun http => ?_
      exact Program.confined_bind peeks_firstSet fun https => Program.confined_done
  · exact Program.confined_done

end Http.Route

theorem Settings.peeks_load {path : String} : Asks Peeks (Settings.load path) := by
  refine asks_bind (asks_lift (confined_ask trivial)) fun there => ?_
  split
  · refine asks_bind (asks_orFail (confined_readText trivial)) fun text => ?_
    split
    · exact asks_pure
    · exact asks_throw
  · exact asks_pure

namespace Registration

theorem peeks_ofSettings {settings : Settings} : Program.Confined Peeks (Collaborators.ofSettings settings) := by
  have paths : Program.Confined Peeks RegistryLogin.defaultPaths :=
    Program.confined_bind Http.Route.peeks_home fun _ =>
      Program.confined_bind (confined_ask trivial) fun _ => Program.confined_done
  have store : Program.Confined Peeks (CredentialStore.ofRoot settings.root) :=
    Program.confined_bind paths fun _ => Program.confined_done
  refine Program.confined_bind store fun store => ?_
  have server : Program.Confined Peeks (Server.ofSettings settings store) :=
    Program.confined_bind Http.Route.peeks_choose fun _ => Program.confined_done
  exact Program.confined_bind server fun _ => Program.confined_done

variable {c : Collaborators} {holds : List Host.Event → Prop}

theorem rows_answer (covers : Covers holds) (exchanges : ∀ exchange, Rows holds (Host.ask (.exchange exchange)))
    {q : Question} (packages : ∀ call, q = .packages call → Makes holds (c.packages.perform call)) :
    Rows holds (c.answer q) := by
  cases q with
  | server call => exact Server.makes_perform covers exchanges call
  | packages call => exact packages call rfl
  | store call => exact CredentialStore.makes_perform covers call
  | hasSystemCredentials =>
    exact fun events result run => covers.peeks events (CredentialStore.peeks_hasSystem events result run)
  | isServicePlugin name => exact covers.look trivial
  | fileExists path => exact covers.look trivial
  | report level event => exact covers.look trivial

theorem works_exchange {fits : Command → Prop} (exchange : Http.Exchange) :
    Program.Confined (Works fits) (Host.ask (.exchange exchange)) := confined_ask trivial

-- Nothing is taken from the input for a registration.
theorem deaf_answer (q : Question) : Program.Confined Deaf (c.answer q) := by
  have works : Program.Confined (Works fun _ => True) (c.answer q) :=
    rows_answer (covers_allowed fun _ => Stays.works) works_exchange
      fun call _ => (PackageManager.commands_perform call).mono fun _ => Commands.works
  exact works.mono fun _ => Works.deaf

end Registration
end Entitlement
