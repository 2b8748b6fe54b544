import HybridSample.Reactive.Machine
import HybridSample.Color.BaseValue
import HybridSample.PushDelivery
import HybridSample.Language
import HybridSample.ChatScreens
import HybridSample.Reactive.Refinement
import HybridSample.Reactive.Since
import HybridSample.PickerHistory
import HybridSample.ChatService
import HybridSample.LaunchKinds
import HybridSample.ScreenHistory
import HybridSample.Color.AnyDigits
import HybridSample.LogoutAlert
import HybridSample.Application
import HybridSample.ChatHost
import HybridSample.ChatHistory
