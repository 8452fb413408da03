import CityBus.GuardedRuns
import CityBus.CheapestPaths
import CityBus.JourneyGraph
import CityBus.JourneySearch
import CityBus.JourneyOptimality
import CityBus.JourneyPlan
import CityBus.CompiledGraph
import CityBus.JourneyCompleteness
import CityBus.UnroundedFold
import CityBus.ItineraryArithmetic
import CityBus.FoldedLegs
import CityBus.WalkOrBus
import CityBus.AddedService
import CityBus.DoorToDoor
import CityBus.ItineraryClock
import CityBus.ChangeCards
import CityBus.Polylines
import CityBus.PathProjection
import CityBus.RideGeometry
import CityBus.RideDistance
import CityBus.KeyedMaps
import CityBus.Store
import CityBus.RouteService
import CityBus.DrawnRides
import CityBus.GraphFreshness
import CityBus.RingBuffers
import CityBus.LiveTracking
import CityBus.DriverDepartures
import CityBus.TrackingThreads
import CityBus.BusService
import CityBus.AuthService
import CityBus.TrackingHandler
import CityBus.HiddenBuses
import CityBus.AbortingLoops
import CityBus.FailingSockets
import CityBus.UnharmedClients
import CityBus.TrackingRuns
import CityBus.BusShifts
import CityBus.SilentSessions
import CityBus.RouteEdits
import CityBus.VehicleIdentity
import CityBus.FrameLaw
import CityBus.MessageQueues
import CityBus.RiderProtocol
import CityBus.RiderMap
import CityBus.LastingHiding
import CityBus.RiderSubscription
import CityBus.RiderPositions
import CityBus.AlertService
import CityBus.Services
import CityBus.TableRows
import CityBus.NoticeBanner
import CityBus.ConfirmedDeletions
import CityBus.ReferentialIntegrity
import CityBus.DataSeeder
import CityBus.ReadCaches
import CityBus.FixedWindows
import CityBus.LoginRateLimit
import CityBus.AccessControl
import CityBus.WindowLaw
import CityBus.MeasuredSpeed
import CityBus.ProximityAlerts
import CityBus.InboundJson
import CityBus.Thinning
import CityBus.FixedDigits
import CityBus.RoadSnaps
import CityBus.Departures
import CityBus.EtaEngine
import CityBus.LineDiagram
import CityBus.ArrivalAlert
import CityBus.RiderEta
import CityBus.Texts
import CityBus.RouteForm
import CityBus.StoredRows
import CityBus.ConsoleForms
import CityBus.FieldErrors
import CityBus.NearestRoute
import CityBus.DriverDashboard
import CityBus.DriverSwitch
import CityBus.DriverMarkers
