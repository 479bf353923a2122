import MachineTest.Theory.Machine
import MachineTest.Theory.LinkedMap
import MachineTest.Theory.Overwriting
import MachineTest.Theory.Order
import MachineTest.Model.Json
import MachineTest.Model.Schema
import MachineTest.Model.MenuModel
import MachineTest.Model.SingleTonModel
import MachineTest.Pages.HomePage
import MachineTest.Pages.HomePageState
import MachineTest.Pages.CheckoutPage
import MachineTest.Pages.App
import MachineTest.Pages.HomePageController
import MachineTest.Pages.Fetching
import MachineTest.Pages.Tokens
import MachineTest.Pages.Main
import MachineTest.Pages.OtpPage
import MachineTest.Pages.MockAPP
import MachineTest.Pages.Contexts
import MachineTest.Pages.Mocky
import MachineTest.Verify.MenuRoundTrip
import MachineTest.Verify.MenuSchema
import MachineTest.Verify.MenuReencoding
import MachineTest.Verify.MenuContent
import MachineTest.Verify.HomePageState
import MachineTest.Verify.Cart
import MachineTest.Verify.Total
import MachineTest.Verify.Ledger
import MachineTest.Verify.Session
import MachineTest.Verify.Fetching
import MachineTest.Verify.Loading
import MachineTest.Verify.Isolation
import MachineTest.Verify.Residue
import MachineTest.Verify.Tokens
import MachineTest.Verify.Main
import MachineTest.Verify.OtpPage
import MachineTest.Verify.Login
import MachineTest.Verify.Routes
import MachineTest.Verify.AppTokens
import MachineTest.Verify.Restarts
import MachineTest.Verify.Navigator
import MachineTest.Verify.Contexts
import MachineTest.Verify.Mocky
import MachineTest.Verify.Provenance
import MachineTest.Verify.Counts
import MachineTest.Verify.OnScreen
import MachineTest.Verify.Displayed
import MachineTest.Verify.Stranded
import MachineTest.Verify.Bill
import MachineTest.Verify.Buttons
import MachineTest.Verify.Orders
