import TabNavigator.Configuration.Written
import TabNavigator.Describe
import TabNavigator.Json.Grammar
import TabNavigator.Navigator.Reachable
import TabNavigator.Navigator.Reduce
import TabNavigator.Navigator.View
import TabNavigator.Proofs.Selection
import TabNavigator.Proofs.Following
import TabNavigator.Proofs.Notices
import TabNavigator.Proofs.Curve
import TabNavigator.Proofs.Fading
import TabNavigator.Proofs.Freshness
import TabNavigator.Proofs.Acceptance
import TabNavigator.Proofs.Resolving
import TabNavigator.Proofs.RoundTrip
import TabNavigator.Proofs.Suggestions
import TabNavigator.Proofs.SearchBar
import TabNavigator.Proofs.Offers
import TabNavigator.Proofs.Interleaving
import TabNavigator.Proofs.Looks
import TabNavigator.Proofs.Identity
import TabNavigator.Proofs.Ignored
import TabNavigator.Proofs.Course
import TabNavigator.Proofs.Tokens
import TabNavigator.Proofs.Values
import TabNavigator.Proofs.Members
import TabNavigator.Proofs.Documents
import TabNavigator.Proofs.Replacing
import TabNavigator.Proofs.Lowering
import TabNavigator.Proofs.Finding
import TabNavigator.Proofs.Routing
import TabNavigator.Proofs.Activity
import TabNavigator.Proofs.Escaping
import TabNavigator.Proofs.Printing
import TabNavigator.Proofs.Refusal
